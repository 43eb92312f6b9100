import EngineHost.Foreign
import EngineHost.Proofs.Following
/-
What the operations of a tracing engine do to its slots, apart from those that
run guests.
-/
namespace EngineHost

namespace Guest.Binary

/-- Whatever compiles has no flaw. -/
theorem flaw?_of_compile {b : Binary} {m : Module} (h : b.compile = .ok m) : m.flaw? = none := by
  cases b with
  | bytes raw =>
    rw [compile] at h
    split at h
    · cases h
      simp [Module.flaw?, Module.memoryCount, Module.importedCount]
    · cases h
  | described described =>
    rw [compile] at h
    split at h
    case h_1 => cases h
    case h_2 hflaw =>
      cases h
      exact hflaw

end Guest.Binary

/-- What a slot plans to do with its module. -/
def TracerSlot.planOf (slot : TracerSlot) (id : EngineId) (m : Guest.Module) : Plan :=
  { engine := id, module := m, bindings := slot.bindings, listener := slot.listener,
    patches := slot.patches }

namespace Tracer

variable {t : Tracer} {id k : EngineId} {s : TracerSlot}

theorem slot_eq_ok_iff : t.slot id = .ok s ↔ t.slots[id]? = some s := by
  unfold slot
  split
  case h_1 found h => rw [h, Except.ok.injEq, Option.some.injEq]
  case h_2 h =>
    rw [h]
    constructor
    · intro heq
      cases heq
    · intro heq
      cases heq

theorem slot_eq_error_iff {e : EngineError} :
    t.slot id = .error e ↔ t.slots[id]? = none ∧ e = .unknownEngine id := by
  unfold slot
  split
  case h_1 found h =>
    rw [h]
    constructor
    · intro heq
      cases heq
    · intro hex
      obtain ⟨⟨⟩, _⟩ := hex
  case h_2 h =>
    rw [Except.error.injEq, eq_comm (b := e)]
    exact (and_iff_right h).symm

theorem slots_setSlot : (t.setSlot id s).slots[k]? = if id = k then some s else t.slots[k]? := by
  simp only [setSlot, Std.ExtTreeMap.getElem?_insert, Std.LawfulEqCmp.compare_eq_iff_eq]

/-- Putting back what a slot holds already. -/
theorem setSlot_self (h : t.slots[id]? = some s) : t.setSlot id s = t := by
  have hslots : (t.setSlot id s).slots = t.slots := by
    apply Std.ExtTreeMap.ext_getElem?
    intro k
    rw [slots_setSlot]
    split
    case isTrue hk => rw [← hk, h]
    case isFalse => rfl
  cases t
  exact congrArg _ hslots

theorem install_eq_ok_iff {b : Guest.Binary} {t' : Tracer} :
    t.install id b = .ok t' ↔ ∃ s m, t.slots[id]? = some s ∧ b.compile = .ok m ∧
      approve t.config m = .ok () ∧
      t' = t.setSlot id { s with module := some m, patches := [], image := none } := by
  simp only [install, bind_eq_ok_iff, slot_eq_ok_iff, mapError_eq_ok_iff]
  constructor
  · intro h
    obtain ⟨s, hs, m, hm, ⟨⟩, happrove, ⟨⟩⟩ := h
    exact ⟨s, m, hs, hm, happrove, rfl⟩
  · intro h
    obtain ⟨s, m, hs, hm, happrove, rfl⟩ := h
    exact ⟨s, hs, m, hm, (), happrove, rfl⟩

theorem plan_eq_ok_iff {p : Plan} :
    t.plan id = .ok p ↔ ∃ s m, t.slots[id]? = some s ∧ s.module = some m ∧ p = s.planOf id m := by
  simp only [plan, bind_eq_ok_iff, slot_eq_ok_iff]
  constructor
  · intro hex
    obtain ⟨s, hs, h⟩ := hex
    split at h
    case h_1 => cases h
    case h_2 m hm =>
      cases h
      exact ⟨s, m, hs, hm, rfl⟩
  · intro hex
    obtain ⟨s, m, hs, hm, rfl⟩ := hex
    refine ⟨s, hs, ?_⟩
    rw [hm]
    rfl

theorem bind?_eq_some_iff {name : String} {binding : Binding} {t' : Tracer} :
    t.bind? id name binding = some t' ↔ binding.entry.accepts binding.shape = true ∧
      ∃ s, t.slots[id]? = some s ∧
        t' = t.setSlot id { s with bindings := s.bindings.insert name binding } := by
  simp only [bind?, Option.ite_none_right_eq_some, Option.map_eq_some_iff, eq_comm (b := t')]

theorem bind?_eq_none_iff {name : String} {binding : Binding} :
    t.bind? id name binding = none ↔
      (binding.entry.accepts binding.shape = true → t.slots[id]? = none) := by
  simp only [bind?, ite_eq_right_iff, Option.map_eq_none_iff]

theorem listen?_eq_some_iff {entry : LogEntry} {t' : Tracer} :
    t.listen? id entry = some t' ↔
      ∃ s, t.slots[id]? = some s ∧ t' = t.setSlot id { s with listener := some entry } := by
  simp only [listen?, Option.map_eq_some_iff, eq_comm (b := t')]

theorem listen?_eq_none_iff {entry : LogEntry} :
    t.listen? id entry = none ↔ t.slots[id]? = none := Option.map_eq_none_iff

end Tracer

end EngineHost
