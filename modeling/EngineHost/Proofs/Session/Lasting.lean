import EngineHost.Proofs.Session.Alike
import EngineHost.Proofs.Session.Guarding
/-
Properties of a session that last.  What is kept by the few things that ever
happen to a session is kept by every operation and by every callback, so
guarding it does not get in the way.

A course would not do here.  It tells which engines were created, but it may
file a record for any identity at any time, while the host files one only for an
engine that it has just created.
-/
namespace EngineHost

/-! ## Steps that create nothing -/

/-- Nothing is drawn between two sessions, the same engines are known to the same
foreign engines, and the same identities have a record.  Nothing is pinned. -/
structure Session.Steady (s t : Session) : Prop where
  ids : t.ids = s.ids
  plain : ∀ index, ((foreignAt index).get t).Plain
  engines : ∀ site, (t.linesAt? site).isSome = (s.linesAt? site).isSome
  records : ∀ id, (t.directory.lookup id).isSome = (s.directory.lookup id).isSome

theorem Foreign.isSome_lines?_hold {f : Foreign} {id : EngineId} (h : (f.lines? id).isSome)
    (slot : Held) (k : EngineId) : ((f.hold id slot).lines? k).isSome = (f.lines? k).isSome := by
  cases f with
  | pinned e kept => rfl
  | scripted e =>
    cases slot with
    | tracing slot => rfl
    | scripted slot =>
      simp only [hold, lines?, Option.isSome_map, Scripted.slots_setSlot] at h ⊢
      split
      case isTrue hk => rw [← hk, h, Option.isSome_some]
      case isFalse => rfl
  | tracing t =>
    cases slot with
    | scripted slot => rfl
    | tracing slot =>
      simp only [hold, lines?, Option.isSome_map, Tracer.slots_setSlot] at h ⊢
      split
      case isTrue hk => rw [← hk, h, Option.isSome_some]
      case isFalse => rfl

theorem Foreign.plain_scripted (e : Scripted) : (Foreign.scripted e).Plain := nofun

theorem Foreign.plain_tracing (t : Tracer) : (Foreign.tracing t).Plain := nofun

theorem Foreign.plain_hold {f : Foreign} (hf : f.Plain) (id : EngineId) (slot : Held) :
    (f.hold id slot).Plain := by
  cases f with
  | pinned e k => exact absurd rfl (hf e k)
  | scripted e =>
    cases slot with
    | scripted => exact plain_scripted _
    | tracing => exact plain_scripted e
  | tracing t =>
    cases slot with
    | scripted => exact plain_tracing t
    | tracing => exact plain_tracing _

namespace Session.Steady

variable {s : Session} (hplain : ∀ index, ((foreignAt index).get s).Plain)

include hplain

/-- Events, the handler, handles and the desk have no part in this. -/
theorem aside {t : Session} (hids : t.ids = s.ids) (hforeigns : t.foreigns = s.foreigns)
    (hdirectory : t.directory = s.directory) : s.Steady t := by
  have hget (index : Nat) : (foreignAt index).get t = (foreignAt index).get s := by
    show t.foreigns.getD index default = _
    rw [hforeigns]
    rfl
  refine ⟨hids, fun index => ?_, fun site => ?_, fun id => ?_⟩
  · rw [hget]
    exact hplain index
  · rw [linesAt?, linesAt?, hget]
  · rw [hdirectory]

/-- A foreign engine that knows the same engines, in the place of another. -/
theorem setForeign {index : Nat} {f : Foreign} (hf : f.Plain)
    (hlines : ∀ k, (f.lines? k).isSome = (((foreignAt index).get s).lines? k).isSome) :
    s.Steady (s.setForeign index f) := by
  refine ⟨rfl, fun k => ?_, fun site => ?_, fun _ => rfl⟩
  · rw [foreign_get_setForeign]
    split
    case isTrue => exact hf
    case isFalse => exact hplain k
  · rw [linesAt?_setForeign]
    split
    case isTrue hk => rw [hlines, linesAt?, hk]
    case isFalse => rfl

theorem held {index : Nat} {id : EngineId}
    (hknown : (((foreignAt index).get s).lines? id).isSome) (slot : Held) :
    s.Steady (s.setForeign index (((foreignAt index).get s).hold id slot)) :=
  setForeign hplain (Foreign.plain_hold (hplain index) id slot) (Foreign.isSome_lines?_hold hknown slot)

theorem adjusted (id : EngineId) (f : EngineRecord Callback → EngineRecord Callback) :
    s.Steady { s with directory := s.directory.adjust id f } := by
  refine ⟨rfl, hplain, fun _ => rfl, fun k => ?_⟩
  show ((s.directory.adjust id f).lookup k).isSome = _
  rw [Directory.lookup_adjust]
  split <;> simp

end Session.Steady

/-! ## Creating an engine -/

/-- An engine has been created.  Its identity is the one that was next. -/
structure Session.Enlarged (s : Session) (site : Site) (t : Session) : Prop where
  id_eq : site.id = ⟨s.ids.next⟩
  next_eq : t.ids.next = s.ids.next + 1
  plain : ∀ index, ((foreignAt index).get t).Plain
  engines : ∀ k, t.linesAt? k = if site = k then some {} else s.linesAt? k
  directory : t.directory = s.directory

theorem Foreign.create_of_plain {f g : Foreign} {ids ids' : IdSource} {id : EngineId}
    (hf : f.Plain) (h : f.create ids = (id, ids', g)) :
    id = ⟨ids.next⟩ ∧ ids'.next = ids.next + 1 ∧ g.Plain ∧
      ∀ k, g.lines? k = if id = k then some {} else f.lines? k := by
  cases f with
  | pinned e k => exact absurd rfl (hf e k)
  | scripted e =>
    cases h
    refine ⟨rfl, rfl, plain_scripted _, fun k => ?_⟩
    simp only [lines?, Scripted.create, Scripted.slots_setSlot]
    split <;> rfl
  | tracing t =>
    cases h
    refine ⟨rfl, rfl, plain_tracing _, fun k => ?_⟩
    simp only [lines?, Tracer.create, Tracer.slots_setSlot]
    split <;> rfl

theorem createIn_enlarges {s t : Session} {index : Nat} {id : EngineId}
    (hplain : ∀ index, ((foreignAt index).get s).Plain)
    (h : createIn index s = some (id, t)) : s.Enlarged ⟨index, id⟩ t := by
  obtain ⟨hid, hnext, hg, hlines⟩ := Foreign.create_of_plain (hplain index)
    (rfl : ((foreignAt index).get s).create s.ids = _)
  unfold createIn at h
  cases h
  refine ⟨hid, hnext, fun k => ?_, fun k => ?_, rfl⟩
  · rw [Session.foreign_get_setForeign]
    split
    case isTrue => exact hg
    case isFalse => exact hplain k
  · rw [Session.linesAt?_setForeign]
    by_cases hindex : index = k.foreign
    case neg =>
      rw [if_neg hindex, if_neg fun heq => hindex (congrArg (·.foreign) heq)]
      rfl
    case pos =>
      obtain ⟨_, k⟩ := k
      subst hindex
      rw [if_pos rfl, hlines]
      simp only [Site.mk.injEq, true_and]
      rfl

/-! ## Lasting properties -/

/-- A property that is kept by everything that happens to a session at once. -/
structure Lasting (I : Session → Prop) : Prop where
  plain : ∀ {s}, I s → ∀ index, ((foreignAt index).get s).Plain
  steady : ∀ {s t}, I s → s.Steady t → I t
  created : ∀ {s t index id}, I s → createIn index s = some (id, t) → I t
  /-- A record is filed for an engine that is known. -/
  filed : ∀ {s id directory}, I s → (∃ index, (s.linesAt? ⟨index, id⟩).isSome) →
    s.directory.insert? { id } = some directory → I { s with directory }

/-- From `s` on, `b` gives whatever `a` gives, in a session with the property. -/
def Lasts {α : Type} (I : Session → Prop) (s : Session) (a b : Run α) : Prop :=
  Follows s a b fun _ t => I t

section

variable {I : Session → Prop} {s : Session} {α β ε : Type}

namespace Lasts

theorem pure {r : α} (hs : I s) : Lasts I s (pure r) (pure r) := Follows.pure hs

theorem change {a : Run α} {r : α} {t : Session} (ha : a s = some (r, t)) (ht : I t) :
    Lasts I s a a := Follows.self ha ht

theorem bind {a b : Run α} {f g : α → Run β} (h : Lasts I s a b)
    (hf : ∀ r t, I t → Lasts I t (f r) (g r)) : Lasts I s (a >>= f) (b >>= g) :=
  Follows.bind h hf

theorem run_bind {a b : ExceptT ε Run α} {f g : α → ExceptT ε Run β} (h : Lasts I s a.run b.run)
    (hf : ∀ r t, I t → Lasts I t (f r).run (g r).run) : Lasts I s (a >>= f).run (b >>= g).run :=
  Follows.run_bind h (fun _ _ ht => ht) hf

theorem lift_bind {a b : Run α} {f g : α → ExceptT ε Run β} (h : Lasts I s a b)
    (hf : ∀ r t, I t → Lasts I t (f r).run (g r).run) :
    Lasts I s ((liftM a : ExceptT ε Run α) >>= f).run ((liftM b : ExceptT ε Run α) >>= g).run :=
  Follows.lift_bind h hf

theorem ofExcept_bind (hs : I s) {r : Except EngineError α} {f g : α → Attempt Session β}
    (hf : ∀ x, r = .ok x → Lasts I s (f x).run (g x).run) :
    Lasts I s (Attempt.ofExcept r >>= f).run (Attempt.ofExcept r >>= g).run :=
  Follows.ofExcept_bind (fun _ _ => hs) hf

theorem ofEngine {a b : Attempt Session α} (h : Lasts I s a.run b.run) :
    Lasts I s (Hosted.ofEngine a).run (Hosted.ofEngine b).run := ofEngine_follows h

theorem answerHosted {a b : Hosted α} (h : Lasts I s a.run b.run) (answer : α → Answer) :
    Lasts I s (answerHosted a answer) (EngineHost.answerHosted b answer) :=
  h.bind fun r _ ht => by cases r <;> exact .pure ht

theorem answerAttempt {a b : Attempt Session α} (h : Lasts I s a.run b.run)
    (answer : α → Answer) :
    Lasts I s (answerAttempt a answer) (EngineHost.answerAttempt b answer) :=
  h.bind fun r _ ht => by cases r <;> exact .pure ht

/-- Actions coupled in one session are actions of which one follows the other. -/
theorem coupledIn_iff {a b : Run α} :
    CoupledIn (fun s s' => s' = s ∧ I s) a b ↔ ∀ s, I s → Lasts I s a b := by
  constructor
  case mp =>
    intro h s hs r t hrun
    obtain ⟨_, hb, rfl, ht⟩ := h s s ⟨rfl, hs⟩ r t hrun
    exact ⟨hb, ht⟩
  case mpr =>
    intro h s _ hs r t hrun
    obtain ⟨rfl, hs⟩ := hs
    obtain ⟨hb, ht⟩ := h _ hs r t hrun
    exact ⟨t, hb, rfl, ht⟩

end Lasts

variable (hI : Lasting I)

include hI

namespace Lasting

theorem aside (hs : I s) {t : Session} (hids : t.ids = s.ids) (hforeigns : t.foreigns = s.foreigns)
    (hdirectory : t.directory = s.directory) : I t :=
  hI.steady hs (.aside (hI.plain hs) hids hforeigns hdirectory)

theorem held (hs : I s) {index : Nat} {id : EngineId}
    (hknown : (((foreignAt index).get s).lines? id).isSome) (slot : Held) :
    I (s.setForeign index (((foreignAt index).get s).hold id slot)) :=
  hI.steady hs (.held (hI.plain hs) hknown slot)

theorem adjusted (hs : I s) (id : EngineId) (f : EngineRecord Callback → EngineRecord Callback) :
    I { s with directory := s.directory.adjust id f } :=
  hI.steady hs (.adjusted (hI.plain hs) id f)

section

variable (hs : I s) {index : Nat} {id : EngineId} {f : Foreign}

include hs

theorem alike (index : Nat) :
    ((foreignAt index).get s).Alike (fun _ => True) ((foreignAt index).get s) :=
  .refl (hI.plain hs index)

/-- A foreign engine in which one engine has moved, in the place of the one
before. -/
theorem moved {r : Except EngineError Foreign}
    (hmoved : Foreign.Moved id ((foreignAt index).get s) ((foreignAt index).get s) r r)
    (h : r = .ok f) : I (s.setForeign index f) := by
  subst h
  obtain ⟨⟩ | ⟨slot, hknown⟩ := hmoved
  exact hI.held hs hknown slot

theorem installed {binary : Guest.Binary}
    (h : ((foreignAt index).get s).install id binary = .ok f) : I (s.setForeign index f) :=
  hI.moved hs (Foreign.install_moved (hI.alike hs index) trivial binary) h

theorem patched {e e' : Scripted} {offset length : UInt32} {data : ByteArray}
    (hf : (foreignAt index).get s = .scripted e) (h : e.patch id offset length data = .ok e') :
    I (s.setForeign index (.scripted e')) :=
  hI.moved hs (Foreign.patch_moved (hI.alike hs index) trivial offset length data hf hf)
    (by rw [h]; rfl)

theorem bound {name : String} {b : Binding}
    (h : ((foreignAt index).get s).bind? id name b = some f) : I (s.setForeign index f) := by
  have hid : (fun _ => True) id := trivial
  rcases Foreign.bind?_moved (hI.alike hs index) hid name b with
    ⟨hnone, -⟩ | ⟨slot, hknown, hsome, -⟩
  · cases hnone.symm.trans h
  · cases hsome.symm.trans h
    exact hI.held hs hknown slot

theorem listened {entry : LogEntry}
    (h : ((foreignAt index).get s).listen? id entry = some f) : I (s.setForeign index f) := by
  have hid : (fun _ => True) id := trivial
  rcases Foreign.listen?_moved (hI.alike hs index) hid entry with
    ⟨hnone, -⟩ | ⟨slot, hknown, hsome, -⟩
  · cases hnone.symm.trans h
  · cases hsome.symm.trans h
    exact hI.held hs hknown slot

end

/-- A slot is stored for a tracing engine that is known. -/
theorem stored (hs : I s) {site : Site} {old : TracerSlot} (hold : s.slotAt? site = some old)
    (slot : TracerSlot) : I (s.setSlotAt site slot) := by
  have htracer := Session.tracerAt?_eq_some_iff.1 (Session.tracerAt?_of_slotAt? hold)
  have hknown : (((foreignAt site.foreign).get s).lines? site.id).isSome := by
    rw [← Session.linesAt?, Session.linesAt?_of_slotAt? hold, Option.isSome_some]
  have hheld := hI.held hs hknown (.tracing slot)
  rw [htracer] at hheld
  exact hheld

end Lasting

/-! ## Calls and items -/

theorem note_lasts (hs : I s) (e : Event) : Lasts I s (note e) (note e) :=
  .change rfl (hI.aside hs rfl rfl rfl)

variable {go₁ go₂ : Callback → Run Int32} (hgo : ∀ c s, I s → Lasts I s (go₁ c) (go₂ c))

include hgo

omit hI in
theorem raise_lasts (hs : I s) (cause : BindingFault) :
    Lasts I s (raise go₁ cause) (raise go₂ cause) := by
  unfold raise
  refine Follows.step rfl ?_
  cases s.handler with
  | none => exact Lasts.pure hs
  | some handler => exact (hgo (handler cause) s hs).bind fun _ _ ht => .pure ht

omit hI in
theorem reporting_lasts {a b : Run (Except BindingFault α)} (hab : Lasts I s a b) :
    Lasts I s (reporting go₁ a) (reporting go₂ b) := by
  unfold reporting
  refine hab.bind fun answer t ht => ?_
  cases answer with
  | error cause => exact (raise_lasts hgo ht cause).bind fun _ _ ht => .pure ht
  | ok _ => exact .pure ht

omit hI in
theorem runCall_lasts (hs : I s) (dir : Directory Callback) (id : EngineId) (name : String)
    (call : RawCall) : Lasts I s (runCall go₁ dir id name call) (runCall go₂ dir id name call) := by
  unfold runCall
  cases dir.resolve id name call with
  | error cause => exact .pure hs
  | ok c => exact (hgo c s hs).bind fun _ _ ht => .pure ht

omit hI in
theorem runItem_lasts (hs : I s) (dir : Directory Callback) (id : EngineId) (item : ByteArray) :
    Lasts I s (runItem go₁ dir id item) (runItem go₂ dir id item) := by
  unfold runItem
  cases dir.resolveItem id item with
  | error cause => exact .pure hs
  | ok found =>
    cases found with
    | none => exact .pure hs
    | some c => exact (hgo c s hs).bind fun _ _ ht => .pure ht

omit hI in
theorem dispatchCall_lasts (hs : I s) (id : EngineId) (name : String) (call : RawCall) :
    Lasts I s (dispatchCall go₁ id name call) (dispatchCall go₂ id name call) :=
  reporting_lasts hgo (Follows.step rfl (runCall_lasts hgo hs _ id name call))

omit hI in
theorem dispatchItem_lasts (hs : I s) (id : EngineId) (item : ByteArray) :
    Lasts I s (dispatchItem go₁ id item) (dispatchItem go₂ id item) :=
  reporting_lasts hgo (Follows.step rfl (runItem_lasts hgo hs _ id item))

theorem enter_lasts (hs : I s) (entry : EntryPoint) (id : EngineId) (name : String)
    (call : RawCall) :
    Lasts I s ((sessionHost go₁).enter entry id name call)
      ((sessionHost go₂).enter entry id name call) := by
  simp only [sessionHost]
  split
  case h_1 => exact dispatchCall_lasts hgo hs id name call
  case h_2 noted answer _ =>
    split
    case isTrue => exact (note_lasts hI hs _).bind fun _ _ ht => .pure ht
    case isFalse => exact .pure hs

theorem deliver_lasts (hs : I s) (entry : LogEntry) (id : EngineId) (item : ByteArray) :
    Lasts I s ((sessionHost go₁).deliver entry id item)
      ((sessionHost go₂).deliver entry id item) := by
  simp only [sessionHost]
  split
  case h_1 => exact dispatchItem_lasts hgo hs id item
  case h_2 noted answer =>
    split
    case isTrue => exact (note_lasts hI hs _).bind fun _ _ ht => .pure ht
    case isFalse => exact .pure hs

theorem hostsAlike_lasts (id : EngineId) (slot : TracerSlot) :
    HostsAlike (fun s s' => s' = s ∧ I s) id id slot (sessionHost go₁) (sessionHost go₂) :=
  ⟨fun name b _ _ => Lasts.coupledIn_iff.2 fun _ hs => enter_lasts hI hgo hs b.entry id name _,
    fun entry _ item => Lasts.coupledIn_iff.2 fun _ hs => deliver_lasts hI hgo hs entry id item⟩

section

variable (hs : I s) (budget : Nat) (config : TracerConfig) (slot : TracerSlot) (id : EngineId)
  (m : Guest.Module)

include hs

theorem carryOut_lasts :
    Lasts I s (carryOut budget (sessionHost go₁) config (slot.planOf id m)).run
      (carryOut budget (sessionHost go₂) config (slot.planOf id m)).run :=
  Lasts.coupledIn_iff.1 (carryOut_coupled (hostsAlike_lasts hI hgo id slot) budget) s hs

theorem initialMemory_lasts :
    Lasts I s (initialMemory budget (sessionHost go₁) config (slot.planOf id m)).run
      (initialMemory budget (sessionHost go₂) config (slot.planOf id m)).run :=
  Lasts.coupledIn_iff.1 (initialMemory_coupled (hostsAlike_lasts hI hgo id slot) budget) s hs

end

/-! ## Foreign engines -/

section

variable (hs : I s) (budget index : Nat) (id : EngineId)

include hs

theorem tracer_compute_lasts :
    Lasts I s (Tracer.compute budget (sessionHost go₁) (foreignAt index).tracer id).run
      (Tracer.compute budget (sessionHost go₂) (foreignAt index).tracer id).run := by
  unfold Tracer.compute
  refine Follows.lift_step rfl (Lasts.ofExcept_bind hs fun plan hplan => ?_)
  obtain ⟨slot, m, -, -, rfl⟩ := Tracer.plan_eq_ok_iff.1 hplan
  refine (carryOut_lasts hI hgo hs budget _ slot id m).run_bind fun done t ht => ?_
  cases done.memory with
  | none => exact .pure ht
  | some memory =>
    refine Follows.lift_step rfl (Lasts.ofExcept_bind ht fun slot hslot => ?_)
    have hslot : t.slotAt? ⟨index, id⟩ = some slot :=
      Session.slotAt?_eq_some_iff.2 (Tracer.slot_eq_ok_iff.1 hslot)
    exact Follows.lift_step rfl
      (Lasts.pure (hI.stored ht hslot { slot with image := some memory }))

/-- What is captured is the slot of an engine that is known. -/
theorem tracer_capture_lasts :
    Follows s (Tracer.capture budget (sessionHost go₁) (foreignAt index).tracer id).run
      (Tracer.capture budget (sessionHost go₂) (foreignAt index).tracer id).run
      fun r t => I t ∧ ∀ slot, r = .ok slot → t.slotAt? ⟨index, id⟩ = some slot := by
  have herror {u : Session} (hu : I u) (e : EngineError) :
      I u ∧ ∀ slot, Except.error e = Except.ok slot → u.slotAt? ⟨index, id⟩ = some slot :=
    ⟨hu, nofun⟩
  have hfound {u : Session} {slot : TracerSlot}
      (h : ((foreignAt index).tracer.get u).slot id = .ok slot) :
      u.slotAt? ⟨index, id⟩ = some slot :=
    Session.slotAt?_eq_some_iff.2 (Tracer.slot_eq_ok_iff.1 h)
  unfold Tracer.capture
  refine Follows.lift_step rfl ?_
  refine Follows.ofExcept_bind (fun e _ => herror hs e) fun slot hslot => ?_
  by_cases himage : slot.image.isSome = true
  case pos =>
    simp only [himage, if_true]
    refine Follows.pure ⟨hs, fun _ heq => ?_⟩
    cases heq
    exact hfound hslot
  case neg =>
    simp only [himage]
    refine Follows.ofExcept_bind (fun e _ => herror hs e) fun plan hplan => ?_
    obtain ⟨slot, m, -, -, rfl⟩ := Tracer.plan_eq_ok_iff.1 hplan
    refine Follows.run_bind (initialMemory_lasts hI hgo hs budget _ slot id m)
      (fun e _ hu => herror hu e) fun memory t ht => ?_
    refine Follows.lift_step rfl ?_
    refine Follows.ofExcept_bind (fun e _ => herror ht e) fun slot hslot => ?_
    refine Follows.lift_step rfl (Follows.pure ⟨hI.stored ht (hfound hslot) _, fun _ heq => ?_⟩)
    cases heq
    show (t.setSlotAt ⟨index, id⟩ _).slotAt? ⟨index, id⟩ = _
    rw [Session.slotAt?_setSlotAt, if_pos rfl]

theorem foreign_compute_lasts :
    Lasts I s (Foreign.compute budget (sessionHost go₁) (foreignAt index) id).run
      (Foreign.compute budget (sessionHost go₂) (foreignAt index) id).run := by
  unfold Foreign.compute
  refine Follows.lift_step rfl ?_
  cases (foreignAt index).get s with
  | scripted | pinned => exact Lasts.pure hs
  | tracing => exact tracer_compute_lasts hI hgo hs budget index id

theorem foreign_snapshot_lasts :
    Lasts I s (Foreign.snapshot budget (sessionHost go₁) (foreignAt index) id).run
      (Foreign.snapshot budget (sessionHost go₂) (foreignAt index) id).run := by
  unfold Foreign.snapshot
  refine Follows.lift_step rfl ?_
  cases (foreignAt index).get s with
  | scripted | pinned => exact Lasts.pure hs
  | tracing =>
    exact Follows.run_bind (tracer_capture_lasts hI hgo hs budget index id) (fun _ _ ht => ht.1)
      fun _ _ ht => .pure ht.1

theorem tracer_patch_lasts (offset length : UInt32) (data : ByteArray) :
    Lasts I s
      (Tracer.patch budget (sessionHost go₁) (foreignAt index).tracer id offset length data).run
      (Tracer.patch budget (sessionHost go₂) (foreignAt index).tracer id offset length
        data).run := by
  unfold Tracer.patch
  refine Lasts.ofExcept_bind hs fun p _ => ?_
  refine Follows.run_bind (tracer_capture_lasts hI hgo hs budget index id) (fun _ _ ht => ht.1) ?_
  intro slot t ht
  refine Lasts.ofExcept_bind ht.1 fun image _ => ?_
  exact Follows.lift_step rfl (Follows.self rfl (hI.stored ht.1 (ht.2 slot rfl) _))

theorem foreign_patch_lasts (offset length : UInt32) (data : ByteArray) :
    Lasts I s (Foreign.patch budget (sessionHost go₁) (foreignAt index) id offset length data).run
      (Foreign.patch budget (sessionHost go₂) (foreignAt index) id offset length data).run := by
  unfold Foreign.patch
  refine Follows.lift_step rfl ?_
  cases hf : (foreignAt index).get s with
  | pinned e k => exact absurd hf (hI.plain hs index e k)
  | tracing => exact tracer_patch_lasts hI hgo hs budget index id offset length data
  | scripted e =>
    exact Lasts.ofExcept_bind hs fun e' he' => Follows.self rfl (hI.patched hs hf he')

end

/-! ## Handles -/

section

variable (hs : I s) (handle : Handle)

include hs

omit hgo in
theorem install_lasts (binary : Guest.Binary) :
    Lasts I s (handle.install binary).run (handle.install binary).run := by
  unfold Handle.install
  refine Follows.lift_step rfl ?_
  cases hf : ((foreignAt handle.foreign).get s).install handle.id binary with
  | error cause => exact Lasts.pure hs
  | ok f => exact Follows.self rfl (hI.installed hs hf)

omit hI in
theorem fail_lasts (cause : BindingFault) :
    Lasts I s (Handle.fail go₁ cause : Hosted α).run (Handle.fail go₂ cause : Hosted α).run := by
  unfold Handle.fail
  exact (raise_lasts hgo hs cause).lift_bind fun _ _ ht => .pure ht

/-- A record is filed for the engine that has just been created. -/
theorem create_lasts (index : Nat) :
    Lasts I s (Handle.create go₁ index).run (Handle.create go₂ index).run := by
  have hcreated : Follows s (createIn index) (createIn index)
      fun id t => I t ∧ (t.linesAt? ⟨index, id⟩).isSome := by
    intro id t hrun
    have henlarged := createIn_enlarges (hI.plain hs) hrun
    refine ⟨hrun, hI.created hs hrun, ?_⟩
    rw [henlarged.engines, if_pos rfl, Option.isSome_some]
  unfold Handle.create
  refine Follows.lift_bind hcreated fun id t ht => Follows.lift_step rfl ?_
  cases hinsert : t.directory.insert? { id } with
  | none => exact fail_lasts hgo ht.1 _
  | some directory => exact Follows.self rfl (hI.filed ht.1 ⟨index, ht.2⟩ hinsert)

omit hI hgo in
theorem attach_lasts (index : Nat) (id : EngineId) :
    Lasts I s (Handle.attach index id).run (Handle.attach index id).run := by
  unfold Handle.attach
  refine Follows.lift_step rfl ?_
  split
  case isTrue => exact Lasts.pure hs
  case isFalse => exact Lasts.pure hs

theorem register_lasts (name : String) (f : HostFunction Callback) :
    Lasts I s (handle.register go₁ name f).run (handle.register go₂ name f).run := by
  unfold Handle.register
  refine Follows.lift_step rfl ?_
  cases (handle.record s).register name f with
  | error cause => exact fail_lasts hgo hs cause
  | ok filed =>
    have htaken := hI.adjusted hs handle.id fun _ => filed
    refine Follows.lift_step (changeDirectory_eq _) (Follows.lift_step rfl ?_)
    split
    case h_1 g hbind => exact Follows.self rfl (hI.bound htaken hbind)
    case h_2 =>
      refine Follows.lift_step (changeDirectory_eq _) ?_
      exact fail_lasts hgo (hI.adjusted htaken handle.id (·.discard name)) _

theorem subscribe_lasts (subscriber : String → Callback) :
    Lasts I s (handle.subscribe go₁ subscriber).run (handle.subscribe go₂ subscriber).run := by
  have htaken := hI.adjusted hs handle.id ({ · with subscriber := some subscriber })
  unfold Handle.subscribe
  refine Follows.lift_step (changeDirectory_eq _) (Follows.lift_step rfl ?_)
  split
  case h_1 g hlisten => exact Follows.self rfl (hI.listened htaken hlisten)
  case h_2 =>
    refine Follows.lift_step (changeDirectory_eq _) ?_
    exact fail_lasts hgo (hI.adjusted htaken handle.id ({ · with subscriber := none })) _

/-- The engine of a one-shot execution is created first, whatever becomes of it. -/
theorem executeIn_lasts (budget index : Nat) (binary : Guest.Binary) :
    Lasts I s (executeIn budget go₁ index binary).run (executeIn budget go₂ index binary).run := by
  have hcreated : Lasts I s (createIn index) (createIn index) :=
    .change rfl (hI.created hs (rfl : createIn index s = _))
  unfold executeIn
  refine hcreated.lift_bind fun id t ht => Follows.lift_step rfl ?_
  refine Lasts.ofExcept_bind ht fun f hf => ?_
  refine (Lasts.change rfl (hI.installed ht hf)).lift_bind fun _ u hu => ?_
  exact foreign_compute_lasts hI hgo hu budget index id

end

/-! ## Operations -/

omit hI hgo in
theorem withForeign_lasts (hs : I s) {index : Nat} {f g : Foreign → Run Answer}
    (hfg : ∀ foreign, (foreignAt index).get s = foreign → Lasts I s (f foreign) (g foreign)) :
    Lasts I s (withForeign index f) (withForeign index g) := withForeign_follows hs hfg

omit hI hgo in
theorem withHandle_lasts (hs : I s) {name : String} {f g : Handle → Run Answer}
    (hfg : ∀ handle, Lasts I s (f handle) (g handle)) :
    Lasts I s (withHandle name f) (withHandle name g) :=
  withHandle_follows hs fun handle _ => hfg handle

omit hgo in
theorem keepHandle_lasts {a b : Hosted Handle} (name : String) (hab : Lasts I s a.run b.run) :
    Lasts I s (do let handle ← a; keepHandle name handle; return handle : Hosted Handle).run
      (do let handle ← b; keepHandle name handle; return handle : Hosted Handle).run :=
  hab.run_bind fun _ _ ht => Follows.self rfl (hI.aside ht rfl rfl rfl)

section

variable (hs : I s) (budget : Nat)

include hs

theorem handleOp_lasts (name : String) (op : HandleOp Callback) :
    Lasts I s (handleOp budget go₁ name op) (handleOp budget go₂ name op) := by
  cases op with
  | create index =>
    exact withForeign_lasts hs fun _ _ =>
      (keepHandle_lasts hI name (create_lasts hI hgo hs index)).answerHosted _
  | attach index id =>
    exact withForeign_lasts hs fun _ _ =>
      (keepHandle_lasts hI name (attach_lasts hs index id)).answerHosted _
  | copy target =>
    refine withHandle_lasts hs fun handle => ?_
    have hnamed : I { s with handles := s.handles.insert target handle } := hI.aside hs rfl rfl rfl
    exact (Lasts.change rfl hnamed).bind fun _ _ ht => .pure ht
  | install binary =>
    exact withHandle_lasts hs fun handle => (install_lasts hI hs handle binary).answerHosted _
  | compute =>
    refine withHandle_lasts hs fun handle => Lasts.answerHosted ?_ _
    exact (foreign_compute_lasts hI hgo hs budget _ _).ofEngine.run_bind fun _ _ ht => .pure ht
  | memory =>
    exact withHandle_lasts hs fun handle =>
      (foreign_snapshot_lasts hI hgo hs budget _ _).ofEngine.answerHosted _
  | read offset length =>
    refine withHandle_lasts hs fun handle => Lasts.answerHosted ?_ _
    exact (foreign_snapshot_lasts hI hgo hs budget _ _).ofEngine.run_bind fun _ _ ht => .pure ht
  | patch offset length data =>
    refine withHandle_lasts hs fun handle => Lasts.answerHosted ?_ _
    unfold Handle.patch
    cases checkLength length data with
    | error cause => exact .pure hs
    | ok _ => exact (foreign_patch_lasts hI hgo hs budget _ _ offset length data).ofEngine
  | register functionName f =>
    exact withHandle_lasts hs fun handle =>
      (register_lasts hI hgo hs handle functionName f).answerHosted _
  | subscribe subscriber =>
    exact withHandle_lasts hs fun handle =>
      (subscribe_lasts hI hgo hs handle subscriber).answerHosted _
  | unsubscribe =>
    refine withHandle_lasts hs fun handle => Lasts.answerHosted (.change rfl ?_) _
    exact hI.adjusted hs handle.id ({ · with subscriber := none })
  | functions | debug => exact withHandle_lasts hs fun _ => Follows.step rfl (Lasts.pure hs)

theorem foreignOp_lasts (index : Nat) (op : ForeignOp) :
    Lasts I s (foreignOp budget go₁ index op) (foreignOp budget go₂ index op) := by
  unfold foreignOp
  refine withForeign_lasts hs fun f hf => ?_
  subst hf
  cases op with
  | create =>
    exact (Lasts.change rfl (hI.created hs (rfl : createIn index s = _))).bind
      fun _ _ ht => .pure ht
  | install id binary =>
    refine Lasts.answerAttempt (Lasts.ofExcept_bind hs fun f hf => ?_) _
    exact Follows.self rfl (hI.installed hs hf)
  | compute id => exact (foreign_compute_lasts hI hgo hs budget index id).answerAttempt _
  | memory id => exact (foreign_snapshot_lasts hI hgo hs budget index id).answerAttempt _
  | patch id offset length data =>
    exact (foreign_patch_lasts hI hgo hs budget index id offset length data).answerAttempt _
  | execute binary => exact (executeIn_lasts hI hgo hs budget index binary).answerAttempt _
  | bind id name binding =>
    dsimp only
    split
    case h_1 g hbind =>
      exact (Lasts.change rfl (hI.bound hs hbind)).bind fun _ _ ht => .pure ht
    case h_2 => exact .pure hs
  | listen id entry =>
    dsimp only
    split
    case h_1 g hlisten =>
      exact (Lasts.change rfl (hI.listened hs hlisten)).bind fun _ _ ht => .pure ht
    case h_2 => exact .pure hs
  | config => exact .pure hs

end

theorem scriptedOp_lasts (hs : I s) (index : Nat) (op : ScriptedOp) :
    Lasts I s (scriptedOp go₁ index op) (scriptedOp go₂ index op) := by
  unfold scriptedOp
  refine withForeign_lasts hs fun f hf => ?_
  cases f with
  | pinned e k => exact absurd hf (hI.plain hs index e k)
  | tracing => exact .pure hs
  | scripted e =>
    have hadjusted (id : EngineId) (change : ScriptedSlot → ScriptedSlot)
        (hsame : ∀ slot, (change slot).bindings = slot.bindings ∧
          (change slot).listener = slot.listener) :
        I (s.setForeign index (.scripted (e.adjust id change))) := by
      refine hI.steady hs (.setForeign (hI.plain hs) (Foreign.plain_scripted _) fun k => ?_)
      rw [hf]
      exact congrArg Option.isSome (Foreign.lines?_scripted (f := .scripted e) rfl hsame k)
    dsimp only [Foreign.scripted?]
    cases op with
    | setOutput id payload =>
      have hset := hadjusted id ({ · with output := payload }) fun _ => ⟨rfl, rfl⟩
      exact (Lasts.change rfl hset).bind fun _ _ ht => .pure ht
    | refuse id =>
      have hset := hadjusted id ({ · with refusing := true }) fun _ => ⟨rfl, rfl⟩
      exact (Lasts.change rfl hset).bind fun _ _ ht => .pure ht
    | binary | imports | armed => exact .pure hs
    | call id name call =>
      refine Lasts.bind ?_ fun _ _ ht => .pure ht
      unfold Scripted.call
      cases e.entry id name with
      | error cause => exact .pure hs
      | ok entry => exact enter_lasts hI hgo hs entry id name _
    | emit id item =>
      refine Lasts.bind ?_ fun _ _ ht => .pure ht
      unfold Scripted.emit
      cases e.listener? id with
      | none => exact .pure hs
      | some entry => exact deliver_lasts hI hgo hs entry id item

/-- The desk is not the host's own directory. -/
theorem deskOp_lasts (hs : I s) (op : DeskOp Callback) :
    Lasts I s (deskOp go₁ op) (deskOp go₂ op) := by
  have hchange (f : Desk → Desk) {answer : Answer} :
      Lasts I s (do changeDesk f; return answer) (do changeDesk f; return answer) := by
    have hchanged : I { s with desk := f s.desk } := hI.aside hs rfl rfl rfl
    exact (Lasts.change rfl hchanged).bind fun _ _ ht => .pure ht
  have hrecord {name : String} {f g : EngineRecord Callback → Run Answer}
      (hfg : ∀ r, Lasts I s (f r) (g r)) :
      Lasts I s (withRecord name f) (withRecord name g) := by
    unfold withRecord
    refine Follows.step rfl ?_
    cases s.desk.record? name with
    | none => exact Lasts.pure hs
    | some r => exact hfg r
  cases op with
  | lookup | contains | size => exact Follows.step rfl (Lasts.pure hs)
  | make name id => exact hchange _
  | insert name =>
    refine hrecord fun _ => Follows.step rfl ?_
    cases s.desk.file? name with
    | none => exact Lasts.pure hs
    | some d => exact hchange _
  | register name functionName f =>
    refine hrecord fun r => ?_
    cases r.register functionName f with
    | error cause => exact .pure hs
    | ok changed => exact hchange _
  | function name functionName =>
    refine hrecord fun r => ?_
    cases r.function functionName <;> exact .pure hs
  | names | debug => exact hrecord fun _ => .pure hs
  | subscribe | unsubscribe => exact hrecord fun _ => hchange _
  | dispatch id name call =>
    exact Follows.step rfl (Lasts.bind (runCall_lasts hgo hs _ id name call) fun _ _ ht => .pure ht)
  | deliver id item =>
    exact Follows.step rfl (Lasts.bind (runItem_lasts hgo hs _ id item) fun _ _ ht => .pure ht)

/-! ## Performing -/

theorem perform_lasts (hs : I s) (budget : Nat) (op : Op) :
    Lasts I s (perform budget go₁ op) (perform budget go₂ op) := by
  cases op with
  | handle name op => exact handleOp_lasts hI hgo hs budget name op
  | foreign index op => exact foreignOp_lasts hI hgo hs budget index op
  | scripted index op => exact scriptedOp_lasts hI hgo hs index op
  | desk op => exact deskOp_lasts hI hgo hs op
  | executeBinary index binary =>
    refine withForeign_lasts hs fun _ _ => Lasts.answerHosted ?_ _
    exact (executeIn_lasts hI hgo hs budget index binary).ofEngine.run_bind fun _ _ ht => .pure ht
  | enter id name call => exact (dispatchCall_lasts hgo hs id name call).bind fun _ _ ht => .pure ht
  | deliver id item => exact (dispatchItem_lasts hgo hs id item).bind fun _ _ ht => .pure ht
  | filed => exact Follows.step rfl (Lasts.pure hs)
  | setHandler handler =>
    have hset : I { s with handler := some handler } := hI.aside hs rfl rfl rfl
    exact (Lasts.change rfl hset).bind fun _ _ ht => .pure ht
  | clearHandler =>
    have hset : I { s with handler := none } := hI.aside hs rfl rfl rfl
    exact (Lasts.change rfl hset).bind fun _ _ ht => .pure ht

omit hgo in
/-- A callback does what the operations it asks for do. -/
theorem play_lasts {ask₁ ask₂ : Op → Run Answer}
    (hask : ∀ op s, I s → Lasts I s (ask₁ op) (ask₂ op)) (c : Callback) (hs : I s) :
    Lasts I s (c.play ask₁ note) (c.play ask₂ note) := by
  induction c generalizing s with
  | done value => exact .pure hs
  | ask question next ih => exact (hask question s hs).bind fun answer t ht => ih answer ht
  | note what next ih => exact (note_lasts hI hs what).bind fun _ t ht => ih ht

omit hgo in
/-- Guarding what a lasting property implies does not get in the way. -/
theorem guardWithin_lasts {P : Session → Prop} (hholds : ∀ {s}, I s → P s) {budget depth : Nat}
    {op : Op} (hs : I s) : Lasts I s (performWithin budget depth op) (guardWithin P budget depth op) := by
  have hguarding {α : Type} {s : Session} {a b : Run α} (hs : I s) (hab : Lasts I s a b) :
      Lasts I s a (guarding P b) := by
    intro r t hrun
    obtain ⟨hb, ht⟩ := hab r t hrun
    exact ⟨guarding_eq_some_iff.2 ⟨hholds hs, hb, hholds ht⟩, ht⟩
  induction depth generalizing s op with
  | zero =>
    intro r t hrun
    cases hrun
  | succ depth ih =>
    refine hguarding hs (perform_lasts hI (fun c s hs => ?_) hs budget op)
    exact hguarding hs (play_lasts hI (fun _ _ hs => ih hs) c hs)

omit hgo in
theorem Session.guarded_of_lasting {P : Session → Prop} (hholds : ∀ {s}, I s → P s)
    {budget depth : Nat} {ops : List Op} (hs : I s) {log : List (Answer × List Event)}
    (h : s.transcript budget depth ops = some log) : s.guarded P budget depth ops = some log := by
  induction ops generalizing s log with
  | nil => exact h
  | cons op rest ih =>
    obtain ⟨answer, t, tail, hanswer, hrest, rfl⟩ := transcript_cons_eq_some_iff.1 h
    obtain ⟨hguarded, ht⟩ := guardWithin_lasts hI hholds hs _ _ hanswer
    have htaken : I t.takeEvents.2 := hI.aside ht rfl rfl rfl
    exact guarded_cons_eq_some_iff.2 ⟨answer, t, tail, hguarded, ih htaken hrest, rfl⟩

end

end EngineHost
