import EngineHost.Proofs.Session.History
/-
Computing through a handle.  The answer is decoded from what carrying out the
engine's plan hands back, whatever budgets that takes.
-/
namespace EngineHost

/-! ## Answers within some budgets -/

/-- Performed within budgets that suffice, an operation is answered so. -/
def Session.Answers (s : Session) (op : Op) (a : Answer) : Prop :=
  ∃ budget depth t, performWithin budget depth op s = some (a, t)

section

variable {s t : Session} {budget₁ budget₂ depth₁ depth₂ : Nat}

/-- An operation has one answer at most. -/
theorem Session.Answers.unique {op : Op} {a b : Answer} (ha : s.Answers op a)
    (hb : s.Answers op b) : a = b := by
  obtain ⟨budget₁, depth₁, t, ha⟩ := ha
  obtain ⟨budget₂, depth₂, u, hb⟩ := hb
  have ha := performWithin_mono (Nat.le_max_left budget₁ budget₂) (Nat.le_max_left depth₁ depth₂) ha
  have hb := performWithin_mono (Nat.le_max_right budget₁ budget₂) (Nat.le_max_right depth₁ depth₂) hb
  cases ha.symm.trans hb
  rfl

end

/-! ## Computing -/

/-- What comes out of an engine, as the answer to a computation. -/
def Answer.ofPayload : Except EngineError ByteArray → Answer
  | .error e => .hostError (.ofEngine e)
  | .ok raw =>
    match TraceResult.decode raw with
    | .ok result => .trace result
    | .error e => .hostError e

theorem Answer.ofPayload_eq {p : Except EngineError ByteArray} :
    Answer.ofPayload p = .ofHosted .trace (p.mapError HostError.ofEngine >>= TraceResult.decode) := by
  unfold ofPayload
  cases p with
  | error e => rfl
  | ok raw =>
    show _ = ofHosted _ (TraceResult.decode raw)
    dsimp only
    cases TraceResult.decode raw with
    | error e => rfl
    | ok result => rfl

theorem Answer.ofPayload_ok {bytes : ByteArray} {result : TraceResult}
    (h : TraceResult.decode bytes = .ok result) : ofPayload (.ok bytes) = .trace result := by
  unfold ofPayload
  dsimp only
  rw [h]

/-- An engine's error is shown as one only if it is one. -/
theorem Answer.ofPayload_engine {p : Except EngineError ByteArray} {e : EngineError}
    (h : .hostError (.engine e) = ofPayload p) : p = .error e := by
  cases p with
  | error e' => cases e' <;> cases h <;> rfl
  | ok raw =>
    unfold ofPayload TraceResult.decode at h
    dsimp only at h
    repeat' split at h
    all_goals
      rename_i hdecode
      cases h
      repeat' split at hdecode
      all_goals cases hdecode

/-- An engine behind a handle, with a module that was accepted. -/
structure Session.Ready (s : Session) (name : String) (handle : Handle) (tracer : Tracer)
    (slot : TracerSlot) (m : Guest.Module) : Prop where
  named : s.handles[name]? = some handle
  tracing : s.tracerAt? handle.foreign = some tracer
  there : s.slotAt? ⟨handle.foreign, handle.id⟩ = some slot
  installed : slot.module = some m
  accepted : approve tracer.config m = .ok ()

/-- The entry export of a module that was accepted is a function to call. -/
theorem entry?_of_approve {config : TracerConfig} {m : Guest.Module}
    (h : approve config m = .ok ()) : (m.entry? config).isSome := by
  obtain ⟨_, h, _⟩ := bind_eq_ok_iff.1 h
  unfold approveEntry at h
  dsimp only at h
  unfold Guest.Module.entry?
  split at h
  case h_1 => cases h
  case h_2 e hexport =>
    rw [hexport]
    dsimp only
    split at h
    case h_1 => cases h
    case h_2 type htype =>
      split at h
      case isFalse => cases h
      case isTrue hempty =>
        split at htype
        case h_2 => cases htype
        case h_1 hkind =>
          obtain ⟨params, results⟩ := type
          rw [Bool.and_eq_true, List.isEmpty_iff, List.isEmpty_iff] at hempty
          obtain ⟨rfl, rfl⟩ := hempty
          rw [if_pos ⟨hkind, htype⟩]
          rfl

section

variable {s t : Session} {name : String} {handle : Handle} {tracer : Tracer} {slot : TracerSlot}
  {m : Guest.Module}

theorem Session.Ready.plan (h : s.Ready name handle tracer slot m) :
    ((foreignAt handle.foreign).tracer.get s).plan handle.id = .ok (slot.planOf handle.id m) :=
  Tracer.plan_eq_ok_iff.2 ⟨slot, m, Session.slotAt?_eq_some_iff.1 h.there, h.installed, rfl⟩

/-- Computing is carrying out the plan, as long as the slot stays there. -/
theorem Session.Ready.tracer_compute (h : s.Ready name handle tracer slot m) {budget : Nat}
    {host : Host Session} {p : Except EngineError ByteArray}
    (hstays : ∀ r u, (carryOut budget host tracer.config (slot.planOf handle.id m)).run s =
      some (r, u) → (u.slotAt? ⟨handle.foreign, handle.id⟩).isSome) :
    (∃ t, (Tracer.compute budget host (foreignAt handle.foreign).tracer handle.id).run s =
        some (p, t)) ↔
      ∃ r u, (carryOut budget host tracer.config (slot.planOf handle.id m)).run s = some (r, u) ∧
        p = r.map (·.payload) := by
  have hconfig : ((foreignAt handle.foreign).tracer.get s).config = tracer.config := by
    rw [Session.tracer_get, h.tracing, Option.getD_some]
  rw [← hconfig] at hstays ⊢
  unfold Tracer.compute
  constructor
  · intro hex
    obtain ⟨t, hrun⟩ := hex
    obtain ⟨_, _, ⟨⟩, hrun⟩ := Turn.run_lift_bind_eq_some_iff.1 hrun
    rcases Attempt.run_ofExcept_bind_eq_some_iff.1 hrun with ⟨e, hplan, _⟩ | ⟨plan, hplan, hrun⟩
    · cases h.plan.symm.trans hplan
    cases h.plan.symm.trans hplan
    rcases Turn.run_bind_eq_some_iff.1 hrun with ⟨e, hcarried, rfl⟩ | ⟨done, u, hcarried, hrun⟩
    · exact ⟨.error e, t, hcarried, rfl⟩
    refine ⟨.ok done, u, hcarried, ?_⟩
    obtain ⟨payload, memory⟩ := done
    cases memory with
    | none =>
      cases hrun
      rfl
    | some memory =>
      obtain ⟨_, _, ⟨⟩, hrun⟩ := Turn.run_lift_bind_eq_some_iff.1 hrun
      rcases Attempt.run_ofExcept_bind_eq_some_iff.1 hrun with ⟨e, hnone, _⟩ | ⟨after, _, hrun⟩
      · obtain ⟨after, hafter⟩ := Option.isSome_iff_exists.1 (hstays _ _ hcarried)
        rw [Tracer.slot_eq_ok_iff.2 (Session.slotAt?_eq_some_iff.1 hafter)] at hnone
        cases hnone
      · obtain ⟨_, _, ⟨⟩, ⟨⟩⟩ := Turn.run_lift_bind_eq_some_iff.1 hrun
        rfl
  · intro hex
    obtain ⟨r, u, hcarried, rfl⟩ := hex
    refine Exists.imp (fun t hrest => Turn.run_lift_bind_eq_some_iff.2 ⟨_, s, rfl,
      Attempt.run_ofExcept_bind_eq_some_iff.2 (.inr ⟨_, h.plan, hrest⟩)⟩) ?_
    cases r with
    | error e => exact ⟨u, Turn.run_bind_eq_some_iff.2 (.inl ⟨e, hcarried, rfl⟩)⟩
    | ok done =>
      obtain ⟨payload, memory⟩ := done
      cases memory with
      | none => exact ⟨u, Turn.run_bind_eq_some_iff.2 (.inr ⟨_, u, hcarried, rfl⟩)⟩
      | some memory =>
        obtain ⟨after, hafter⟩ := Option.isSome_iff_exists.1 (hstays _ _ hcarried)
        have hslot := Tracer.slot_eq_ok_iff.2 (Session.slotAt?_eq_some_iff.1 hafter)
        refine ⟨u.setSlotAt ⟨handle.foreign, handle.id⟩ { after with image := some memory },
          Turn.run_bind_eq_some_iff.2 (.inr ⟨_, u, hcarried, ?_⟩)⟩
        refine Turn.run_lift_bind_eq_some_iff.2 ⟨_, _, rfl, ?_⟩
        refine Attempt.run_ofExcept_bind_eq_some_iff.2 (.inr ⟨after, hslot, ?_⟩)
        exact Turn.run_lift_bind_eq_some_iff.2 ⟨_, _, rfl, rfl⟩

theorem Session.Ready.foreign_compute (h : s.Ready name handle tracer slot m) {budget : Nat}
    {host : Host Session} :
    (Foreign.compute budget host (foreignAt handle.foreign) handle.id).run s =
      (Tracer.compute budget host (foreignAt handle.foreign).tracer handle.id).run s := by
  unfold Foreign.compute
  rw [Turn.run_lift_bind, Place.read_bind, Session.tracerAt?_eq_some_iff.1 h.tracing]

/-- What a handle hands back is decoded from what its engine does. -/
theorem Handle.compute_eq_some_iff {budget : Nat} {go : Callback → Run Int32}
    {r : Except HostError TraceResult} :
    (handle.compute budget go).run s = some (r, t) ↔
      ∃ p, (Foreign.compute budget (sessionHost go) (foreignAt handle.foreign) handle.id).run s =
        some (p, t) ∧ r = p.mapError HostError.ofEngine >>= TraceResult.decode := by
  have heq : (handle.compute budget go).run =
      (Foreign.compute budget (sessionHost go) (foreignAt handle.foreign) handle.id).run >>=
        fun p => pure (p.mapError HostError.ofEngine >>= TraceResult.decode) := by
    unfold Handle.compute Hosted.ofEngine
    rw [ExceptT.run_bind, ExceptT.run_mk, bind_assoc]
    refine congrArg (_ >>= ·) (funext fun p => ?_)
    cases p with
    | error e => rfl
    | ok raw => rfl
  rw [heq, Turn.bind_pure_eq_some_iff]

theorem Session.Ready.perform_compute (h : s.Ready name handle tracer slot m) {budget : Nat}
    {go : Callback → Run Int32} {a : Answer} :
    perform budget go (.handle name .compute) s = some (a, t) ↔
      ∃ p, (Tracer.compute budget (sessionHost go) (foreignAt handle.foreign).tracer
        handle.id).run s = some (p, t) ∧ a = .ofPayload p := by
  have hperform : perform budget go (.handle name .compute) s =
      answerHosted (handle.compute budget go) .trace s := withHandle_of_named h.named
  rw [hperform, answerHosted_eq_some_iff, ← h.foreign_compute]
  simp only [Handle.compute_eq_some_iff, Answer.ofPayload_eq]
  constructor
  · intro hex
    obtain ⟨_, ⟨p, hp, rfl⟩, rfl⟩ := hex
    exact ⟨p, hp, rfl⟩
  · intro hex
    obtain ⟨p, hp, rfl⟩ := hex
    exact ⟨_, ⟨p, hp, rfl⟩, rfl⟩

/-- The memory that carrying out the plan hands back goes into the slot. -/
theorem Session.Ready.computes (h : s.Ready name handle tracer slot m) {steps budget depth : Nat}
    {payload memory : ByteArray} {after : TracerSlot}
    (hcarried : (carryOut steps (hostWithin budget depth) tracer.config
      (slot.planOf handle.id m)).run s = some (.ok { payload, memory := some memory }, t))
    (hafter : t.slotAt? ⟨handle.foreign, handle.id⟩ = some after) :
    performWithin (max steps budget) (depth + 1) (.handle name .compute) s =
      some (.ofPayload (.ok payload), t.setSlotAt ⟨handle.foreign, handle.id⟩
        { after with image := some memory }) := by
  have hcarried := (carryOut_proceeds
    (companions_within (Nat.le_max_right steps budget) (Nat.le_refl depth)) trivial
    (Nat.le_max_left steps budget) tracer.config _ _ _ hcarried).1
  have hconfig : ((foreignAt handle.foreign).tracer.get s).config = tracer.config := by
    rw [Session.tracer_get, h.tracing, Option.getD_some]
  rw [← hconfig] at hcarried
  refine h.perform_compute.2 ⟨_, Tracer.compute_eq_some_iff.2 ?_, rfl⟩
  exact .kept h.plan hcarried (Session.slotAt?_eq_some_iff.1 hafter)

theorem Session.Ready.stays (h : s.Ready name handle tracer slot m) {steps budget depth : Nat}
    {config : TracerConfig} {plan : Plan} {r : Except EngineError Execution} {u : Session}
    (hrun : (carryOut steps (hostWithin budget depth) config plan).run s = some (r, u)) :
    (u.slotAt? ⟨handle.foreign, handle.id⟩).isSome := by
  obtain ⟨-, js, hcourse⟩ := carryOut_proceeds
    (companions_within (Nat.le_refl budget) (Nat.le_refl depth)) trivial (Nat.le_refl steps) config
    plan _ _ hrun
  exact hcourse.slot_isSome (by rw [h.there, Option.isSome_some])

/-- The answers to a computation are what carrying out the plan comes to. -/
theorem Session.Ready.answers_carryOut_iff (h : s.Ready name handle tracer slot m) {a : Answer} :
    s.Answers (.handle name .compute) a ↔ ∃ steps budget depth r t,
      (carryOut steps (hostWithin budget depth) tracer.config (slot.planOf handle.id m)).run s =
        some (r, t) ∧ a = .ofPayload (r.map (·.payload)) := by
  constructor
  · intro hex
    obtain ⟨budget, depth, t, hrun⟩ := hex
    cases depth with
    | zero => cases hrun
    | succ depth =>
      obtain ⟨p, hp, rfl⟩ := h.perform_compute.1 hrun
      obtain ⟨r, u, hcarried, rfl⟩ := (h.tracer_compute fun _ _ => h.stays).1 ⟨t, hp⟩
      exact ⟨budget, budget, depth, r, u, hcarried, rfl⟩
  · intro hex
    obtain ⟨steps, budget, depth, r, t, hcarried, rfl⟩ := hex
    have hcarried := (carryOut_proceeds
      (companions_within (Nat.le_max_right steps budget) (Nat.le_refl depth)) trivial
      (Nat.le_max_left steps budget) tracer.config _ _ _ hcarried).1
    obtain ⟨u, hp⟩ := (h.tracer_compute fun _ _ => h.stays).2 ⟨r, t, hcarried, rfl⟩
    exact ⟨max steps budget, depth + 1, u, h.perform_compute.2 ⟨_, hp, rfl⟩⟩

end

/-! ## One engine behind one handle -/

def heldTracer (slot : TracerSlot) : Tracer :=
  { slots := (∅ : EngineTable TracerSlot).insert ⟨1⟩ slot }

/-- A session with one handle, on an engine that has this slot. -/
def heldSession (slot : TracerSlot) : Session where
  ids := { next := 2 }
  foreigns := (∅ : Std.ExtTreeMap Nat Foreign).insert 0 (.tracing (heldTracer slot))
  directory := { records := (∅ : EngineTable (EngineRecord Callback)).insert ⟨1⟩ { id := ⟨1⟩ } }
  handles := (∅ : Std.ExtTreeMap String Handle).insert "a" { id := ⟨1⟩, foreign := 0 }

/-- The slot of a guest that shows no bytes, after an empty patch. -/
def patchedSlot (m : Guest.Module) : TracerSlot where
  module := some m
  patches := [{ offset := 0, data := .empty }]
  image := some .empty

theorem heldSession_ready {slot : TracerSlot} {m : Guest.Module} (hinstalled : slot.module = some m)
    (haccepted : approve {} m = .ok ()) :
    (heldSession slot).Ready "a" { id := ⟨1⟩, foreign := 0 } (heldTracer slot) slot m where
  named := Std.ExtTreeMap.getElem?_insert_self
  tracing := rfl
  there := rfl
  installed := hinstalled
  accepted := haccepted

end EngineHost
