import EngineHost.Proofs.Session.Course
/-
The lines of an engine: what leads from it to the host, which is what its
imports are bound to and where the items of its log go.  Foreign engines of all
kinds look alike from here, so each of their operations has one lemma.

Only three things touch a line: creating the engine, binding an import, and
arming the listener.
-/
namespace EngineHost

/-- What leads from an engine to the host. -/
structure Lines where
  bindings : Bindings := ∅
  listener : Option LogEntry := none

def ScriptedSlot.lines (s : ScriptedSlot) : Lines := ⟨s.bindings, s.listener⟩
def TracerSlot.lines (s : TracerSlot) : Lines := ⟨s.bindings, s.listener⟩

/-! ## Slots -/

namespace Scripted

variable {e : Scripted} {id k : EngineId}

theorem slots_setSlot {slot : ScriptedSlot} :
    (e.setSlot id slot).slots[k]? = if id = k then some slot else e.slots[k]? := by
  simp only [setSlot, Std.ExtTreeMap.getElem?_insert, Std.LawfulEqCmp.compare_eq_iff_eq]

theorem slots_adjust {f : ScriptedSlot → ScriptedSlot} :
    (e.adjust id f).slots[k]? = if id = k then (e.slots[k]?).map f else e.slots[k]? := by
  unfold adjust
  cases hslot : e.slots[id]? with
  | none =>
    by_cases hk : id = k
    case neg => simp [hk]
    case pos =>
      subst hk
      simp [hslot]
  | some slot =>
    by_cases hk : id = k
    case neg => simp [slots_setSlot, hk]
    case pos =>
      subst hk
      simp [slots_setSlot, hslot]

theorem slot_eq_ok_iff {slot : ScriptedSlot} : e.slot id = .ok slot ↔ e.slots[id]? = some slot := by
  unfold Scripted.slot
  cases hslot : e.slots[id]? <;> simp

theorem bind?_eq_some {name : String} {b : Binding} {e' : Scripted}
    (h : e.bind? id name b = some e') :
    ∃ slot, e.slots[id]? = some slot ∧
      e' = e.setSlot id { slot with bindings := slot.bindings.insert name b } := by
  unfold bind? at h
  cases hslot : e.slots[id]? with
  | none => simp [hslot] at h
  | some slot =>
    simp only [hslot, Option.ite_none_right_eq_some, Option.some.injEq] at h
    exact ⟨slot, rfl, h.2.symm⟩

/-- A slot that is put back with the same lines. -/
theorem lines_setSlot {slot old : ScriptedSlot} (hold : e.slots[id]? = some old)
    (hsame : slot.lines = old.lines) :
    ((e.setSlot id slot).slots[k]?).map (·.lines) = (e.slots[k]?).map (·.lines) := by
  rw [slots_setSlot]
  by_cases hk : id = k
  case neg => rw [if_neg hk]
  case pos =>
    subst hk
    simp [hold, hsame]

end Scripted

/-- A slot that is put back with the same lines. -/
theorem Tracer.lines_setSlot {t : Tracer} {id k : EngineId} {slot old : TracerSlot}
    (hold : t.slots[id]? = some old) (hsame : slot.lines = old.lines) :
    ((t.setSlot id slot).slots[k]?).map (·.lines) = (t.slots[k]?).map (·.lines) := by
  rw [slots_setSlot]
  by_cases hk : id = k
  case neg => rw [if_neg hk]
  case pos =>
    subst hk
    simp [hold, hsame]

/-! ## Foreign engines -/

namespace Foreign

/-- The lines of an engine, if the foreign engine knows it. -/
def lines? (f : Foreign) (id : EngineId) : Option Lines :=
  match f with
  | .scripted e | .pinned e _ => (e.slots[id]?).map (·.lines)
  | .tracing t => (t.slots[id]?).map (·.lines)

variable {f g : Foreign} {id : EngineId}

theorem lines?_create {ids ids' : IdSource} (h : f.create ids = (id, ids', g)) :
    (∀ k, g.lines? k = if id = k then some {} else f.lines? k) ∨ g = f := by
  unfold create at h
  cases f with
  | scripted e =>
    cases h
    refine .inl fun k => ?_
    simp only [lines?, Scripted.create, Scripted.slots_setSlot]
    split <;> rfl
  | tracing t =>
    cases h
    refine .inl fun k => ?_
    simp only [lines?, Tracer.create, Tracer.slots_setSlot]
    split <;> rfl
  | pinned e kept =>
    cases kept with
    | some kept =>
      cases h
      exact .inr rfl
    | none =>
      cases h
      refine .inl fun k => ?_
      simp only [lines?, Scripted.create, Scripted.slots_setSlot]
      split <;> rfl

theorem lines?_install {binary : Guest.Binary} (h : f.install id binary = .ok g)
    (k : EngineId) : g.lines? k = f.lines? k := by
  unfold install at h
  cases f with
  | tracing t =>
    obtain ⟨t', ht', rfl⟩ := map_eq_ok_iff.1 h
    obtain ⟨slot, m, hslot, _, _, rfl⟩ := Tracer.install_eq_ok_iff.1 ht'
    exact Tracer.lines_setSlot hslot rfl
  | scripted e | pinned e =>
    obtain ⟨e', he', rfl⟩ := map_eq_ok_iff.1 h
    obtain ⟨slot, hslot, ⟨⟩⟩ := bind_eq_ok_iff.1 he'
    exact Scripted.lines_setSlot (Scripted.slot_eq_ok_iff.1 hslot) rfl

theorem lines?_bind {name : String} {b : Binding} (h : f.bind? id name b = some g) :
    ∃ old, f.lines? id = some old ∧ ∀ k, g.lines? k =
      if id = k then some { old with bindings := old.bindings.insert name b } else f.lines? k := by
  unfold bind? at h
  cases f with
  | tracing t =>
    obtain ⟨t', ht', rfl⟩ := Option.map_eq_some_iff.1 h
    obtain ⟨_, slot, hslot, rfl⟩ := Tracer.bind?_eq_some_iff.1 ht'
    refine ⟨slot.lines, by simp [lines?, hslot], fun k => ?_⟩
    simp only [lines?, Tracer.slots_setSlot]
    split <;> rfl
  | scripted e | pinned e =>
    obtain ⟨e', he', rfl⟩ := Option.map_eq_some_iff.1 h
    obtain ⟨slot, hslot, rfl⟩ := Scripted.bind?_eq_some he'
    refine ⟨slot.lines, by simp [lines?, hslot], fun k => ?_⟩
    simp only [lines?, withScripted, Scripted.slots_setSlot]
    split <;> rfl

theorem lines?_listen {entry : LogEntry} (h : f.listen? id entry = some g) :
    ∃ old, f.lines? id = some old ∧ ∀ k, g.lines? k =
      if id = k then some { old with listener := some entry } else f.lines? k := by
  unfold listen? at h
  cases f with
  | tracing t =>
    obtain ⟨t', ht', rfl⟩ := Option.map_eq_some_iff.1 h
    obtain ⟨slot, hslot, rfl⟩ := Tracer.listen?_eq_some_iff.1 ht'
    refine ⟨slot.lines, by simp [lines?, hslot], fun k => ?_⟩
    simp only [lines?, Tracer.slots_setSlot]
    split <;> rfl
  | scripted e | pinned e =>
    obtain ⟨e', he', rfl⟩ := Option.map_eq_some_iff.1 h
    obtain ⟨slot, hslot, rfl⟩ := Option.map_eq_some_iff.1 he'
    refine ⟨slot.lines, by simp [lines?, hslot], fun k => ?_⟩
    simp only [lines?, withScripted, Scripted.slots_setSlot]
    split <;> rfl

theorem lines?_scripted {e : Scripted} {change : ScriptedSlot → ScriptedSlot}
    (he : f.scripted? = some e)
    (hsame : ∀ slot, (change slot).bindings = slot.bindings ∧ (change slot).listener = slot.listener)
    (k : EngineId) : (f.withScripted (e.adjust id change)).lines? k = f.lines? k := by
  have hlines (slot : ScriptedSlot) : (change slot).lines = slot.lines := by
    rw [ScriptedSlot.lines, (hsame slot).1, (hsame slot).2, ScriptedSlot.lines]
  have hadjust : ((e.adjust id change).slots[k]?).map (·.lines) =
      (e.slots[k]?).map (·.lines) := by
    rw [Scripted.slots_adjust]
    split
    case isFalse => rfl
    case isTrue => simp [hlines, Function.comp_def]
  cases f with
  | tracing => cases he
  | scripted | pinned =>
    cases he
    exact hadjust

end Foreign

/-! ## Sessions -/

namespace Session

def linesAt? (s : Session) (site : Site) : Option Lines :=
  ((foreignAt site.foreign).get s).lines? site.id

variable {s : Session} {index : Nat} {site k : Site}

theorem linesAt?_setForeign {f : Foreign} :
    (s.setForeign index f).linesAt? k =
      if index = k.foreign then f.lines? k.id else s.linesAt? k := by
  simp only [linesAt?, foreign_get_setForeign]
  split <;> rfl

/-- A foreign engine in the place of one with the same lines. -/
theorem linesAt?_setForeign_same {f : Foreign}
    (h : ∀ id, f.lines? id = ((foreignAt index).get s).lines? id) :
    (s.setForeign index f).linesAt? k = s.linesAt? k := by
  rw [linesAt?_setForeign]
  by_cases hk : index = k.foreign
  case neg => rw [if_neg hk]
  case pos => rw [if_pos hk, h, hk, linesAt?]

theorem linesAt?_of_slotAt? {slot : TracerSlot} (h : s.slotAt? site = some slot) :
    s.linesAt? site = some slot.lines := by
  have htracer := tracerAt?_eq_some_iff.1 (tracerAt?_of_slotAt? h)
  rw [linesAt?, htracer]
  exact congrArg (Option.map _) (slotAt?_eq_some_iff.1 h)

theorem linesAt?_setSlotAt {slot old : TracerSlot} (hold : s.slotAt? site = some old)
    (hsame : slot.lines = old.lines) : (s.setSlotAt site slot).linesAt? k = s.linesAt? k := by
  have htracer := tracerAt?_eq_some_iff.1 (tracerAt?_of_slotAt? hold)
  refine linesAt?_setForeign_same fun id => ?_
  rw [htracer]
  exact Tracer.lines_setSlot (slotAt?_eq_some_iff.1 hold) hsame

end Session

end EngineHost
