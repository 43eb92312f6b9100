import EngineHost.Proofs.Session.Lines
import EngineHost.Proofs.Tracer.Coupling
/-
Sessions that are alike for some of their engines, a side.  The engines of the
side have the same slots and the same records in both, and what foreign engines
there are is the same.  All else may differ.

Whatever an operation on one engine does to its slot, it does to the slots of an
engine in two foreign engines that are alike for it.
-/
namespace EngineHost

/-! ## Foreign engines -/

/-- Two foreign engines of one make that have the same slots for the engines of a
side.  Pinned engines are left out. -/
inductive Foreign.Alike (side : EngineId → Prop) : Foreign → Foreign → Prop where
  | scripted {e e' : Scripted} (hsize : e'.memorySize = e.memorySize)
      (hslots : ∀ id, side id → e'.slots[id]? = e.slots[id]?) :
      Alike side (.scripted e) (.scripted e')
  | tracing {t t' : Tracer} (hconfig : t'.config = t.config)
      (hslots : ∀ id, side id → t'.slots[id]? = t.slots[id]?) :
      Alike side (.tracing t) (.tracing t')

/-- A slot of a foreign engine of either make. -/
inductive Held where
  | scripted (slot : ScriptedSlot)
  | tracing (slot : TracerSlot)

namespace Foreign

/-- Give an engine a slot, if it is of the make of the foreign engine. -/
def hold (f : Foreign) (id : EngineId) (h : Held) : Foreign :=
  match f, h with
  | .scripted e, .scripted slot => .scripted (e.setSlot id slot)
  | .tracing t, .tracing slot => .tracing (t.setSlot id slot)
  | f, _ => f

/-- A foreign engine that is not pinned. -/
def Plain (f : Foreign) : Prop := ∀ e k, f ≠ .pinned e k

namespace Alike

variable {side side' : EngineId → Prop} {f g k : Foreign}

theorem refl (hf : f.Plain) : f.Alike side f := by
  cases f with
  | scripted e => exact .scripted rfl fun _ _ => rfl
  | tracing t => exact .tracing rfl fun _ _ => rfl
  | pinned e k => exact absurd rfl (hf e k)

theorem trans (h : f.Alike side g) (h' : g.Alike side k) : f.Alike side k := by
  cases h with
  | scripted hsize hslots =>
    obtain ⟨hsize', hslots'⟩ := h'
    exact .scripted (hsize'.trans hsize) fun id hid => (hslots' id hid).trans (hslots id hid)
  | tracing hconfig hslots =>
    obtain ⟨-, -⟩ | ⟨hconfig', hslots'⟩ := h'
    exact .tracing (hconfig'.trans hconfig) fun id hid => (hslots' id hid).trans (hslots id hid)

theorem symm (h : f.Alike side g) : g.Alike side f := by
  cases h with
  | scripted hsize hslots => exact .scripted hsize.symm fun id hid => (hslots id hid).symm
  | tracing hconfig hslots => exact .tracing hconfig.symm fun id hid => (hslots id hid).symm

theorem mono (h : f.Alike side g) (hside : ∀ id, side' id → side id) : f.Alike side' g := by
  cases h with
  | scripted hsize hslots => exact .scripted hsize fun id hid => hslots id (hside id hid)
  | tracing hconfig hslots => exact .tracing hconfig fun id hid => hslots id (hside id hid)

theorem plain (h : f.Alike side g) : f.Plain := by
  cases h <;> nofun

/-- What is alike is of one make. -/
theorem makes (h : f.Alike side g) :
    (∃ e e', f = .scripted e ∧ g = .scripted e' ∧ e'.memorySize = e.memorySize ∧
        ∀ id, side id → e'.slots[id]? = e.slots[id]?) ∨
      ∃ t t', f = .tracing t ∧ g = .tracing t' ∧ t'.config = t.config ∧
        ∀ id, side id → t'.slots[id]? = t.slots[id]? := by
  cases h with
  | scripted hsize hslots => exact .inl ⟨_, _, rfl, rfl, hsize, hslots⟩
  | tracing hconfig hslots => exact .inr ⟨_, _, rfl, rfl, hconfig, hslots⟩

/-- The same slot for the same engine in both. -/
theorem hold (h : f.Alike side g) (id : EngineId) (slot : Held) :
    (f.hold id slot).Alike side (g.hold id slot) := by
  cases h with
  | scripted hsize hslots =>
    cases slot with
    | tracing slot => exact .scripted hsize hslots
    | scripted slot =>
      refine .scripted hsize fun k hk => ?_
      rw [Scripted.slots_setSlot, Scripted.slots_setSlot, hslots k hk]
  | tracing hconfig hslots =>
    cases slot with
    | scripted slot => exact .tracing hconfig hslots
    | tracing slot =>
      refine .tracing hconfig fun k hk => ?_
      rw [Tracer.slots_setSlot, Tracer.slots_setSlot, hslots k hk]

end Alike

variable {side : EngineId → Prop} {f g : Foreign} {id : EngineId}

/-- A slot that is not of the side does not count. -/
theorem alike_hold (hf : f.Plain) (hid : ¬ side id) (slot : Held) :
    f.Alike side (f.hold id slot) := by
  have hne (k : EngineId) (hk : side k) : id ≠ k := fun heq => hid (heq ▸ hk)
  cases f with
  | pinned e k => exact absurd rfl (hf e k)
  | scripted e =>
    cases slot with
    | tracing slot => exact .refl hf
    | scripted slot =>
      refine .scripted rfl fun k hk => ?_
      rw [Scripted.slots_setSlot, if_neg (hne k hk)]
  | tracing t =>
    cases slot with
    | scripted slot => exact .refl hf
    | tracing slot =>
      refine .tracing rfl fun k hk => ?_
      rw [Tracer.slots_setSlot, if_neg (hne k hk)]

end Foreign

/-! ## Operations on one engine -/

namespace Scripted

variable {e e' : Scripted} {id : EngineId} (h : e'.slots[id]? = e.slots[id]?)

include h

theorem slot_congr : e'.slot id = e.slot id := by
  unfold slot
  rw [h]

theorem compute_congr : e'.compute id = e.compute id := by
  unfold compute
  rw [slot_congr h]

theorem snapshot_congr : e'.snapshot id = e.snapshot id := by
  unfold snapshot
  rw [slot_congr h]

theorem entry_congr (name : String) : e'.entry id name = e.entry id name := by
  unfold entry
  rw [h]

theorem listener?_congr : e'.listener? id = e.listener? id := by
  unfold listener?
  rw [h]

theorem binary?_congr : e'.binary? id = e.binary? id := by
  unfold binary?
  rw [h]

theorem imports_congr : e'.imports id = e.imports id := by
  unfold imports
  rw [h]

end Scripted

namespace Foreign

/-- The same happens to one engine of two foreign engines, which they know.  Or it
is refused, for the same reason. -/
inductive Moved {ε : Type} (id : EngineId) (f f' : Foreign) :
    Except ε Foreign → Except ε Foreign → Prop where
  | refused (cause : ε) : Moved id f f' (.error cause) (.error cause)
  | held (slot : Held) (hknown : (f.lines? id).isSome) :
      Moved id f f' (.ok (f.hold id slot)) (.ok (f'.hold id slot))

variable {side : EngineId → Prop} {f f' : Foreign} {id : EngineId}

theorem lines?_of_scripted {e : Scripted} {slot : ScriptedSlot} (h : e.slot id = .ok slot) :
    ((Foreign.scripted e).lines? id).isSome := by
  simp [lines?, Scripted.slot_eq_ok_iff.1 h]

theorem lines?_of_tracing {t : Tracer} {slot : TracerSlot} (h : t.slot id = .ok slot) :
    ((Foreign.tracing t).lines? id).isSome := by
  simp [lines?, Tracer.slot_eq_ok_iff.1 h]

section

variable (h : f.Alike side f') (hid : side id)

include h hid

theorem install_moved (binary : Guest.Binary) :
    Moved id f f' (f.install id binary) (f'.install id binary) := by
  cases h with
  | @scripted e e' hsize hslots =>
    show Moved id _ _ ((e.install id binary).map _) ((e'.install id binary).map _)
    unfold Scripted.install
    rw [Scripted.slot_congr (hslots id hid)]
    cases hslot : e.slot id with
    | error cause => exact .refused cause
    | ok slot =>
      exact .held (.scripted { slot with binary := some binary }) (lines?_of_scripted hslot)
  | @tracing t t' hconfig hslots =>
    show Moved id _ _ ((t.install id binary).map _) ((t'.install id binary).map _)
    unfold Tracer.install
    rw [Tracer.Same.slot_eq ⟨hconfig, hslots id hid⟩, hconfig]
    cases hslot : t.slot id with
    | error cause => exact .refused cause
    | ok slot =>
      cases binary.compile with
      | error flaw => exact .refused _
      | ok m =>
        cases happrove : approve t.config m with
        | error cause =>
          show Moved id _ _ (Except.map _ (approve t.config m >>= _))
            (Except.map _ (approve t.config m >>= _))
          rw [happrove]
          exact .refused cause
        | ok _ =>
          show Moved id _ _ (Except.map _ (approve t.config m >>= _))
            (Except.map _ (approve t.config m >>= _))
          rw [happrove]
          exact .held (.tracing { slot with module := some m, patches := [], image := none })
            (lines?_of_tracing hslot)

theorem patch_moved (offset length : UInt32) (data : ByteArray) {e e' : Scripted}
    (hf : f = .scripted e) (hf' : f' = .scripted e') :
    Moved id f f' ((e.patch id offset length data).map .scripted)
      ((e'.patch id offset length data).map .scripted) := by
  subst hf hf'
  obtain ⟨hsize, hslots⟩ := h
  unfold Scripted.patch
  rw [Scripted.slot_congr (hslots id hid)]
  cases hslot : e.slot id with
  | error cause => exact .refused cause
  | ok slot =>
    cases checkLength length data with
    | error cause => exact .refused cause
    | ok _ =>
      show Moved id _ _ (Except.map _ (rangeIn slot.memory.size offset length >>= _))
        (Except.map _ (rangeIn slot.memory.size offset length >>= _))
      cases rangeIn slot.memory.size offset length with
      | error cause => exact .refused cause
      | ok range =>
        exact .held (.scripted { slot with memory := Bytes.overlay slot.memory range.1 data })
          (lines?_of_scripted hslot)

theorem bind?_moved (name : String) (b : Binding) :
    (f.bind? id name b = none ∧ f'.bind? id name b = none) ∨ ∃ slot, (f.lines? id).isSome ∧
      f.bind? id name b = some (f.hold id slot) ∧ f'.bind? id name b = some (f'.hold id slot) := by
  cases h with
  | @scripted e e' hsize hslots =>
    unfold bind? Scripted.bind?
    dsimp only
    rw [hslots id hid]
    cases hslot : e.slots[id]? with
    | none => exact .inl ⟨rfl, rfl⟩
    | some slot =>
      dsimp only
      split
      case isFalse => exact .inl ⟨rfl, rfl⟩
      case isTrue =>
        exact .inr ⟨.scripted { slot with bindings := slot.bindings.insert name b },
          lines?_of_scripted (Scripted.slot_eq_ok_iff.2 hslot), rfl, rfl⟩
  | @tracing t t' hconfig hslots =>
    unfold bind? Tracer.bind?
    dsimp only
    rw [hslots id hid]
    split
    case isFalse => exact .inl ⟨rfl, rfl⟩
    case isTrue =>
      cases hslot : t.slots[id]? with
      | none => exact .inl ⟨rfl, rfl⟩
      | some slot =>
        exact .inr ⟨.tracing { slot with bindings := slot.bindings.insert name b },
          lines?_of_tracing (Tracer.slot_eq_ok_iff.2 hslot), rfl, rfl⟩

theorem listen?_moved (entry : LogEntry) :
    (f.listen? id entry = none ∧ f'.listen? id entry = none) ∨ ∃ slot, (f.lines? id).isSome ∧
      f.listen? id entry = some (f.hold id slot) ∧
      f'.listen? id entry = some (f'.hold id slot) := by
  cases h with
  | @scripted e e' hsize hslots =>
    unfold listen? Scripted.listen?
    dsimp only
    rw [hslots id hid]
    cases hslot : e.slots[id]? with
    | none => exact .inl ⟨rfl, rfl⟩
    | some slot =>
      exact .inr ⟨.scripted { slot with listener := some entry },
        lines?_of_scripted (Scripted.slot_eq_ok_iff.2 hslot), rfl, rfl⟩
  | @tracing t t' hconfig hslots =>
    unfold listen? Tracer.listen?
    dsimp only
    rw [hslots id hid]
    cases hslot : t.slots[id]? with
    | none => exact .inl ⟨rfl, rfl⟩
    | some slot =>
      exact .inr ⟨.tracing { slot with listener := some entry },
        lines?_of_tracing (Tracer.slot_eq_ok_iff.2 hslot), rfl, rfl⟩

end

/-- An engine that is not known is left alone.  So it is by a slot of the other
make. -/
theorem adjust_moved {e e' : Scripted} (h : e'.slots[id]? = e.slots[id]?)
    (change : ScriptedSlot → ScriptedSlot) :
    ∃ slot, Foreign.scripted (e.adjust id change) = (Foreign.scripted e).hold id slot ∧
      Foreign.scripted (e'.adjust id change) = (Foreign.scripted e').hold id slot := by
  unfold Scripted.adjust
  rw [h]
  cases e.slots[id]? with
  | none => exact ⟨.tracing {}, rfl, rfl⟩
  | some slot => exact ⟨.scripted (change slot), rfl, rfl⟩

end Foreign

/-! ## Sessions -/

/-- Two sessions in which the engines of a side are the same. -/
structure Session.Alike (side : EngineId → Prop) (s s' : Session) : Prop where
  there : ∀ index : Nat, s'.foreigns[index]?.isSome = s.foreigns[index]?.isSome
  foreigns : ∀ index, ((foreignAt index).get s).Alike side ((foreignAt index).get s')
  records : ∀ id, side id → s'.directory.lookup id = s.directory.lookup id

namespace Session

variable {side side' : EngineId → Prop} {s s' t u : Session}

theorem isSome_setForeign {index k : Nat} {f : Foreign} :
    (s.setForeign index f).foreigns[k]?.isSome = (decide (index = k) || s.foreigns[k]?.isSome) := by
  show ((s.foreigns.insert index f)[k]?).isSome = _
  rw [Std.ExtTreeMap.getElem?_insert]
  simp only [Std.LawfulEqCmp.compare_eq_iff_eq]
  by_cases hk : index = k <;> simp [hk]

theorem there_of_ne_default {index : Nat} (h : (foreignAt index).get s ≠ .scripted {}) :
    (s.foreigns[index]?).isSome := by
  cases hf : s.foreigns[index]? with
  | some f => rfl
  | none =>
    refine absurd ?_ h
    show s.foreigns.getD index default = _
    rw [Std.ExtTreeMap.getD_eq_getD_getElem?, hf]
    rfl

/-- A foreign engine that knows an engine is there. -/
theorem there_of_lines {index : Nat} {id : EngineId}
    (h : (((foreignAt index).get s).lines? id).isSome) : (s.foreigns[index]?).isSome := by
  refine there_of_ne_default fun hdefault => ?_
  rw [hdefault] at h
  simp [Foreign.lines?] at h

namespace Alike

theorem refl (h : ∀ index, ((foreignAt index).get s).Plain) : s.Alike side s :=
  ⟨fun _ => rfl, fun index => .refl (h index), fun _ _ => rfl⟩

theorem trans (h : s.Alike side t) (h' : t.Alike side u) : s.Alike side u :=
  ⟨fun index => (h'.there index).trans (h.there index),
    fun index => (h.foreigns index).trans (h'.foreigns index),
    fun id hid => (h'.records id hid).trans (h.records id hid)⟩

theorem symm (h : s.Alike side t) : t.Alike side s :=
  ⟨fun index => (h.there index).symm, fun index => (h.foreigns index).symm,
    fun id hid => (h.records id hid).symm⟩

theorem plain (h : s.Alike side t) (index : Nat) : ((foreignAt index).get s).Plain :=
  (h.foreigns index).plain

/-- Foreign engines that are alike, in the place of two. -/
theorem setForeign (h : s.Alike side s') (index : Nat) {f f' : Foreign} (hf : f.Alike side f') :
    (s.setForeign index f).Alike side (s'.setForeign index f') := by
  refine ⟨fun k => ?_, fun k => ?_, h.records⟩
  · rw [isSome_setForeign, isSome_setForeign, h.there]
  · rw [foreign_get_setForeign, foreign_get_setForeign]
    split
    case isTrue => exact hf
    case isFalse => exact h.foreigns k

/-- One foreign engine in the place of one that is alike. -/
theorem setForeign_right (h : s.Alike side s') {index : Nat} {f : Foreign}
    (hthere : (s'.foreigns[index]?).isSome) (hf : ((foreignAt index).get s').Alike side f) :
    s.Alike side (s'.setForeign index f) := by
  refine ⟨fun k => ?_, fun k => ?_, h.records⟩
  · rw [isSome_setForeign, ← h.there]
    by_cases hk : index = k
    case neg => simp [hk]
    case pos =>
      subst hk
      simp [hthere]
  · rw [foreign_get_setForeign]
    split
    case isFalse => exact h.foreigns k
    case isTrue hk =>
      subst hk
      exact (h.foreigns index).trans hf

end Alike

end Session

end EngineHost
