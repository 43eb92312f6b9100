import EngineHost.Proofs.Session.Course
import EngineHost.Proofs.Tracer.Carrying
/-
Every operation of a session takes a course.
-/
namespace EngineHost

section

variable (d : Discipline)

/-- From `s` on, `b` gives whatever `a` gives, and what happens is a course. -/
def Proceeds {α : Type} (s : Session) (a b : Run α) : Prop :=
  Follows s a b fun _ t => ∃ js, Course d s js t

/-- Two ways of running callbacks, the second of which follows the first from
every session with the property `P`. -/
structure Companions (P : Session → Prop) (go₁ go₂ : Callback → Run Int32) : Prop where
  within : ∃ budget depth, go₁ = Program.play (performWithin budget depth) note
  kept : ∀ {s}, P s → s.Kept d
  stable : ∀ {s js t}, Course d s js t → P s → P t
  callback : ∀ {c s}, P s → d.callback c → Proceeds d s (go₁ c) (go₂ c)

end

section

variable {d : Discipline} {P : Session → Prop} {go₁ go₂ : Callback → Run Int32} {s : Session}
  {α β : Type}

namespace Proceeds

theorem pure {r : α} : Proceeds d s (pure r) (pure r) := Follows.pure ⟨[], .nil s⟩

theorem change {a : Run α} {r : α} {js : Journal} {t : Session} (ha : a s = some (r, t))
    (h : Change d s js t) : Proceeds d s a a := Follows.self ha ⟨js, .one h⟩

theorem bind {a b : Run α} {f g : α → Run β} (h : Proceeds d s a b)
    (hf : ∀ r js t, Course d s js t → Proceeds d t (f r) (g r)) :
    Proceeds d s (a >>= f) (b >>= g) := by
  refine Follows.bind h fun r t hcourse => ?_
  obtain ⟨js, hcourse⟩ := hcourse
  refine (hf r js t hcourse).weaken fun r' u hrest => ?_
  obtain ⟨js', hrest⟩ := hrest
  exact ⟨js ++ js', hcourse.trans hrest⟩

section

variable {ε : Type}

theorem run_bind {a b : ExceptT ε Run α} {f g : α → ExceptT ε Run β}
    (h : Proceeds d s a.run b.run)
    (hf : ∀ r js t, Course d s js t → Proceeds d t (f r).run (g r).run) :
    Proceeds d s (a >>= f).run (b >>= g).run := by
  rw [ExceptT.run_bind, ExceptT.run_bind]
  refine h.bind fun r js t hcourse => ?_
  cases r with
  | error e => exact .pure
  | ok x => exact hf x js t hcourse

theorem lift_bind {a b : Run α} {f g : α → ExceptT ε Run β} (h : Proceeds d s a b)
    (hf : ∀ r js t, Course d s js t → Proceeds d t (f r).run (g r).run) :
    Proceeds d s ((liftM a : ExceptT ε Run α) >>= f).run ((liftM b : ExceptT ε Run α) >>= g).run := by
  rw [Turn.run_lift_bind, Turn.run_lift_bind]
  exact h.bind hf

end

theorem ofExcept_bind {r : Except EngineError α} {f g : α → Attempt Session β}
    (hf : ∀ x, r = .ok x → Proceeds d s (f x).run (g x).run) :
    Proceeds d s (Attempt.ofExcept r >>= f).run (Attempt.ofExcept r >>= g).run :=
  Follows.ofExcept_bind (fun _ _ => ⟨[], .nil s⟩) hf

end Proceeds

section

variable (h : Companions d P go₁ go₂) (hs : P s)

include h hs

theorem raise_proceeds (cause : BindingFault) : Proceeds d s (raise go₁ cause) (raise go₂ cause) := by
  unfold raise
  refine Follows.step rfl ?_
  cases hhandler : s.handler with
  | none => exact Proceeds.pure
  | some handler =>
    have hkept := (h.kept hs).handler handler hhandler cause
    exact (h.callback hs hkept).bind fun _ _ _ _ => .pure

theorem reporting_proceeds {a b : Run (Except BindingFault α)} (hab : Proceeds d s a b) :
    Proceeds d s (reporting go₁ a) (reporting go₂ b) := by
  unfold reporting
  refine hab.bind fun answer js t hcourse => ?_
  cases answer with
  | error cause =>
    exact (raise_proceeds h (h.stable hcourse hs) cause).bind fun _ _ _ _ => .pure
  | ok _ => exact .pure

theorem runCall_proceeds {dir : Directory Callback} (hdir : dir.Kept d) (id : EngineId)
    (name : String) (call : RawCall) :
    Proceeds d s (runCall go₁ dir id name call) (runCall go₂ dir id name call) := by
  unfold runCall
  cases hresolve : dir.resolve id name call with
  | error cause => exact .pure
  | ok c => exact (h.callback hs (hdir.resolve hresolve)).bind fun _ _ _ _ => .pure

theorem runItem_proceeds {dir : Directory Callback} (hdir : dir.Kept d) (id : EngineId)
    (item : ByteArray) : Proceeds d s (runItem go₁ dir id item) (runItem go₂ dir id item) := by
  unfold runItem
  split
  case h_1 => exact .pure
  case h_2 => exact .pure
  case h_3 c hresolve =>
    exact (h.callback hs (hdir.resolveItem hresolve)).bind fun _ _ _ _ => .pure

theorem dispatchCall_proceeds (id : EngineId) (name : String) (call : RawCall) :
    Proceeds d s (dispatchCall go₁ id name call) (dispatchCall go₂ id name call) := by
  refine reporting_proceeds h hs (Follows.step rfl ?_)
  exact runCall_proceeds h hs (h.kept hs).directory id name call

theorem dispatchItem_proceeds (id : EngineId) (item : ByteArray) :
    Proceeds d s (dispatchItem go₁ id item) (dispatchItem go₂ id item) := by
  refine reporting_proceeds h hs (Follows.step rfl ?_)
  exact runItem_proceeds h hs (h.kept hs).directory id item

theorem enter_proceeds (entry : EntryPoint) (id : EngineId) (name : String) (call : RawCall) :
    Proceeds d s ((sessionHost go₁).enter entry id name call)
      ((sessionHost go₂).enter entry id name call) := by
  simp only [sessionHost]
  split
  case h_1 => exact dispatchCall_proceeds h hs id name call
  case h_2 noted answer _ =>
    split
    · have hnoted : Change d s _ _ := .noted (.entered id name call :: s.events)
      exact (Proceeds.change rfl hnoted).bind fun _ _ _ _ => .pure
    · exact .pure

theorem deliver_proceeds (entry : LogEntry) (id : EngineId) (item : ByteArray) :
    Proceeds d s ((sessionHost go₁).deliver entry id item)
      ((sessionHost go₂).deliver entry id item) := by
  simp only [sessionHost]
  split
  case h_1 => exact dispatchItem_proceeds h hs id item
  case h_2 noted answer =>
    split
    · have hnoted : Change d s _ _ := .noted (.delivered id item :: s.events)
      exact (Proceeds.change rfl hnoted).bind fun _ _ _ _ => .pure
    · exact .pure

/-! ## Executions -/

theorem recordCall_proceeds (plan : Plan) (t : Trace) (name : String) (args : List Int64)
    (result : Option Int32) :
    Proceeds d s (recordCall (sessionHost go₁) plan t name args result)
      (recordCall (sessionHost go₂) plan t name args result) := by
  unfold recordCall
  cases plan.listener with
  | none => exact .pure
  | some entry => exact (deliver_proceeds h hs entry _ _).bind fun _ _ _ _ => .pure

theorem serve_proceeds (plan : Plan) (name : String) (binding : Binding)
    (args : List Guest.Value) (t : Trace) :
    Proceeds d s (serve (sessionHost go₁) plan name binding args t)
      (serve (sessionHost go₂) plan name binding args t) := by
  unfold serve
  refine (enter_proceeds h hs _ _ _ _).bind fun answer js u hcourse => ?_
  cases answer with
  | error cause => exact .pure
  | ok value =>
    have hu := h.stable hcourse hs
    exact (recordCall_proceeds h hu plan t name _ _).bind fun _ _ _ _ => .pure

theorem serveImport_proceeds (plan : Plan) (linked : List Linked) (index : Nat)
    (args : List Guest.Value) (t : Trace) :
    Proceeds d s (serveImport (sessionHost go₁) plan linked index args t)
      (serveImport (sessionHost go₂) plan linked index args t) := by
  unfold serveImport
  split
  case h_1 => exact .pure
  case h_2 l _ =>
    split
    case h_1 => exact .pure
    case h_2 binding _ =>
      exact (serve_proceeds h hs plan l.name binding args t).bind fun _ _ _ _ => .pure

theorem runGuest_proceeds (plan : Plan) (env : Guest.Env) (linked : List Linked)
    {budget₁ budget₂ : Nat} (hbudget : budget₁ ≤ budget₂) (x : Guest.Step) (t : Trace) :
    Proceeds d s (runGuest (sessionHost go₁) plan env linked budget₁ x t)
      (runGuest (sessionHost go₂) plan env linked budget₂ x t) := by
  induction budget₁ generalizing budget₂ s x t with
  | zero =>
    intro stage u hrun
    cases hrun
  | succ budget₁ ih =>
    obtain ⟨budget₂, rfl⟩ : ∃ b, budget₂ = b + 1 := ⟨budget₂ - 1, by omega⟩
    have hle : budget₁ ≤ budget₂ := by omega
    cases x with
    | next m => exact ih hs hle _ _
    | ended how m => exact .pure
    | host index args m =>
      intro stage u hrun
      have hserve := serveImport_proceeds h hs plan linked index args t
      rw [runGuest_host_eq_some_iff] at hrun ⊢
      rcases hrun with ⟨why, t', hanswer, rfl⟩ | ⟨results, t', v, hanswer, hrun⟩
      · obtain ⟨hanswer', js, hcourse⟩ := hserve _ _ hanswer
        exact ⟨.inl ⟨why, t', hanswer', rfl⟩, js, hcourse⟩
      · obtain ⟨hanswer', js, hcourse⟩ := hserve _ _ hanswer
        obtain ⟨hrest, js', hcourse'⟩ := ih (h.stable hcourse hs) hle _ _ stage u hrun
        exact ⟨.inr ⟨results, t', v, hanswer', hrest⟩, js ++ js', hcourse.trans hcourse'⟩

section

variable {budget₁ budget₂ : Nat} (hbudget : budget₁ ≤ budget₂) (config : TracerConfig)
  (plan : Plan)

include hbudget

theorem instantiate_proceeds (linked : List Linked) :
    Proceeds d s (instantiate budget₁ (sessionHost go₁) config plan linked)
      (instantiate budget₂ (sessionHost go₂) config plan linked) := by
  unfold instantiate
  dsimp only
  split
  case h_1 => exact .pure
  case h_2 =>
    split
    case h_1 => exact .pure
    case h_2 => exact runGuest_proceeds h hs plan _ linked hbudget _ _

theorem runEntry_proceeds (linked : List Linked) (machine : Guest.Machine) (t : Trace) :
    Proceeds d s (runEntry budget₁ (sessionHost go₁) config plan linked machine t).run
      (runEntry budget₂ (sessionHost go₂) config plan linked machine t).run := by
  unfold runEntry
  split
  case h_1 => exact .pure
  case h_2 f _ =>
    refine (runGuest_proceeds h hs plan _ linked hbudget _ t).lift_bind fun stage js u _ => ?_
    exact .ofExcept_bind fun payload _ => .pure

theorem carryOut_proceeds :
    Proceeds d s (carryOut budget₁ (sessionHost go₁) config plan).run
      (carryOut budget₂ (sessionHost go₂) config plan).run := by
  unfold carryOut
  refine .ofExcept_bind fun linked _ => ?_
  refine (instantiate_proceeds h hs hbudget config plan linked).lift_bind
    fun stage js u hcourse => ?_
  refine .ofExcept_bind fun status _ => ?_
  cases status with
  | some status => exact .pure
  | none =>
    refine .ofExcept_bind fun ready _ => ?_
    exact runEntry_proceeds h (h.stable hcourse hs) hbudget config plan linked _ _

theorem initialMemory_proceeds :
    Proceeds d s (initialMemory budget₁ (sessionHost go₁) config plan).run
      (initialMemory budget₂ (sessionHost go₂) config plan).run := by
  unfold initialMemory
  refine .ofExcept_bind fun linked _ => ?_
  refine (instantiate_proceeds h hs hbudget config plan linked).lift_bind
    fun stage js u hcourse => ?_
  refine .ofExcept_bind fun status _ => ?_
  cases status with
  | some status => exact .pure
  | none => exact .pure

end

/-! ## Engines -/

section

variable {budget₁ budget₂ : Nat} (hbudget : budget₁ ≤ budget₂) (index : Nat) (id : EngineId)

include hbudget

theorem tracer_compute_proceeds :
    Proceeds d s (Tracer.compute budget₁ (sessionHost go₁) (foreignAt index).tracer id).run
      (Tracer.compute budget₂ (sessionHost go₂) (foreignAt index).tracer id).run := by
  unfold Tracer.compute
  refine Follows.lift_step rfl ?_
  refine Proceeds.ofExcept_bind fun plan hplan => ?_
  obtain ⟨slot, m, hslot, hmodule, rfl⟩ := Tracer.plan_eq_ok_iff.1 hplan
  have hslot : s.slotAt? ⟨index, id⟩ = some slot := Session.slotAt?_eq_some_iff.2 hslot
  have htracer := Session.tracerAt?_of_slotAt? hslot
  refine Follows.run_bind (carryOut_proceeds h hs hbudget _ _).known (fun _ _ hp => hp.2) ?_
  intro done t hreached
  obtain ⟨payload, memory⟩ := done
  obtain ⟨hrun, js, hcourse⟩ := hreached
  cases memory with
  | none => exact Follows.pure ⟨js, hcourse⟩
  | some memory =>
    refine Follows.lift_step rfl ?_
    refine Follows.ofExcept_bind (fun _ _ => ⟨js, hcourse⟩) fun slot' hslot' => ?_
    have hslot' : t.slotAt? ⟨index, id⟩ = some slot' :=
      Session.slotAt?_eq_some_iff.2 (Tracer.slot_eq_ok_iff.1 hslot')
    refine Follows.lift_step rfl ?_
    obtain ⟨budget, depth, rfl⟩ := h.within
    obtain ⟨strokes, hended⟩ := carryOut_ended hrun
    exact Follows.pure ⟨_, .execution htracer hslot hmodule hcourse
      (.kept slot' memory hslot' hended) (.nil _)⟩

/-- What is captured is in the slot, and it has an image. -/
theorem tracer_capture_follows :
    Follows s (Tracer.capture budget₁ (sessionHost go₁) (foreignAt index).tracer id).run
      (Tracer.capture budget₂ (sessionHost go₂) (foreignAt index).tracer id).run
      fun r t => (∃ js, Course d s js t) ∧
        ∀ slot, r = .ok slot → t.slotAt? ⟨index, id⟩ = some slot ∧ slot.image.isSome := by
  unfold Tracer.capture
  refine Follows.lift_step rfl ?_
  refine Follows.ofExcept_bind (fun _ _ => ⟨⟨[], .nil s⟩, fun _ h => nomatch h⟩)
    fun slot hslot => ?_
  have hslot : s.slotAt? ⟨index, id⟩ = some slot :=
    Session.slotAt?_eq_some_iff.2 (Tracer.slot_eq_ok_iff.1 hslot)
  dsimp only
  split
  case isTrue himage =>
    refine Follows.pure ⟨⟨[], .nil s⟩, ?_⟩
    intro _ heq
    cases heq
    exact ⟨hslot, himage⟩
  case isFalse =>
    refine Follows.ofExcept_bind (fun _ _ => ⟨⟨[], .nil s⟩, fun _ h => nomatch h⟩)
      fun plan hplan => ?_
    obtain ⟨slot, m, hslot, hmodule, rfl⟩ := Tracer.plan_eq_ok_iff.1 hplan
    have hslot : s.slotAt? ⟨index, id⟩ = some slot := Session.slotAt?_eq_some_iff.2 hslot
    have htracer := Session.tracerAt?_of_slotAt? hslot
    refine Follows.run_bind (initialMemory_proceeds h hs hbudget _ _).known
      (fun _ _ hp => ⟨hp.2, fun _ h => nomatch h⟩) ?_
    intro memory t hreached
    obtain ⟨hrun, js, hcourse⟩ := hreached
    refine Follows.lift_step rfl ?_
    refine Follows.ofExcept_bind (fun _ _ => ⟨⟨js, hcourse⟩, fun _ h => nomatch h⟩)
      fun slot' hslot' => ?_
    have hslot' : t.slotAt? ⟨index, id⟩ = some slot' :=
      Session.slotAt?_eq_some_iff.2 (Tracer.slot_eq_ok_iff.1 hslot')
    refine Follows.lift_step rfl ?_
    refine Follows.pure ⟨?_, ?_⟩
    · show ∃ js, Course d s js (t.setSlotAt ⟨index, id⟩ _)
      cases himage : slot'.image with
      | none =>
        obtain ⟨budget, depth, rfl⟩ := h.within
        obtain ⟨strokes, hbegun⟩ := initialMemory_begun hrun
        exact ⟨_, .execution htracer hslot hmodule hcourse
          (.captured slot' memory hslot' himage hbegun) (.nil _)⟩
      | some image =>
        -- Another image has appeared meanwhile, and that one stays.
        refine ⟨js, ?_⟩
        have hsame : { slot' with image := some ((some image).getD memory) } = slot' := by
          rw [Option.getD_some, ← himage]
        rw [hsame, Session.setSlotAt_self hslot']
        exact hcourse
    · intro _ heq
      cases heq
      refine ⟨?_, rfl⟩
      show (t.setSlotAt ⟨index, id⟩ _).slotAt? ⟨index, id⟩ = _
      rw [Session.slotAt?_setSlotAt, if_pos rfl]

/-- What is shown is the image. -/
theorem tracer_snapshot_follows :
    Follows s (Tracer.snapshot budget₁ (sessionHost go₁) (foreignAt index).tracer id).run
      (Tracer.snapshot budget₂ (sessionHost go₂) (foreignAt index).tracer id).run
      fun r t => (∃ js, Course d s js t) ∧ ∀ memory, r = .ok memory →
        ∃ slot, t.slotAt? ⟨index, id⟩ = some slot ∧ slot.image = some memory := by
  unfold Tracer.snapshot
  refine Follows.run_bind (tracer_capture_follows h hs hbudget index id)
    (fun _ _ hp => ⟨hp.1, fun _ h => nomatch h⟩) ?_
  intro slot t hreached
  obtain ⟨hcourse, hcaptured⟩ := hreached
  obtain ⟨hslot, himage⟩ := hcaptured slot rfl
  obtain ⟨image, himage⟩ := Option.isSome_iff_exists.1 himage
  refine Follows.pure ⟨hcourse, ?_⟩
  intro _ heq
  cases heq
  exact ⟨slot, hslot, by rw [himage, Option.getD_some]⟩

/-- A patch that is accepted is recorded. -/
theorem tracer_patch_follows (offset length : UInt32) (data : ByteArray) :
    Follows s
      (Tracer.patch budget₁ (sessionHost go₁) (foreignAt index).tracer id offset length data).run
      (Tracer.patch budget₂ (sessionHost go₂) (foreignAt index).tracer id offset length data).run
      fun r t => (∃ js, Course d s js t) ∧ (r = .ok () → ∃ p js,
        Patch.make offset length data = .ok p ∧
          Course d s (js ++ [(⟨index, id⟩, .recorded p)]) t) := by
  unfold Tracer.patch
  refine Follows.ofExcept_bind (fun _ _ => ⟨⟨[], .nil s⟩, nofun⟩) fun p hmake => ?_
  refine Follows.run_bind (tracer_capture_follows h hs hbudget index id)
    (fun _ _ hp => ⟨hp.1, nofun⟩) ?_
  intro slot t hreached
  obtain ⟨⟨js, hcourse⟩, hcaptured⟩ := hreached
  obtain ⟨hslot, himage⟩ := hcaptured slot rfl
  obtain ⟨image, himage⟩ := Option.isSome_iff_exists.1 himage
  refine Follows.ofExcept_bind (fun _ _ => ⟨⟨js, hcourse⟩, nofun⟩) fun patched hpatched => ?_
  rw [himage, Option.getD_some] at hpatched
  refine Follows.lift_step rfl ?_
  have hrecorded : Change d t _ _ := .recorded ⟨index, id⟩ slot p image patched hslot himage hpatched
  have hall := hcourse.trans (.one hrecorded)
  exact Follows.self rfl ⟨⟨_, hall⟩, fun _ => ⟨p, js, hmake, hall⟩⟩

end

end

end

end EngineHost
