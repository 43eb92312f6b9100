import EngineHost.Hosting.Record
/-
The directory of records by engine identity.  A record is filed under its own
identity, and no record is ever taken out or replaced by another.
-/
namespace EngineHost

structure Directory (ρ : Type) where
  records : EngineTable (EngineRecord ρ) := ∅

namespace Directory

variable {ρ : Type}

def lookup (d : Directory ρ) (id : EngineId) : Option (EngineRecord ρ) := d.records[id]?

def contains (d : Directory ρ) (id : EngineId) : Bool := d.records.contains id

def size (d : Directory ρ) : Nat := d.records.size

/-- File a record, unless its identity is taken. -/
def insert? (d : Directory ρ) (r : EngineRecord ρ) : Option (Directory ρ) :=
  if d.contains r.id then none else some { records := d.records.insert r.id r }

/-- Change the record of an engine.  Without a record nothing happens. -/
def adjust (d : Directory ρ) (id : EngineId) (f : EngineRecord ρ → EngineRecord ρ) :
    Directory ρ :=
  match d.records[id]? with
  | some r => { records := d.records.insert id (f r) }
  | none => d

theorem contains_eq_isSome (d : Directory ρ) (id : EngineId) :
    d.contains id = (d.lookup id).isSome := by
  simp [contains, lookup]

theorem insert?_eq_some_iff {d e : Directory ρ} {r : EngineRecord ρ} :
    d.insert? r = some e ↔
      d.lookup r.id = none ∧ e = { records := d.records.insert r.id r } := by
  simp only [insert?, contains_eq_isSome]
  cases h : d.lookup r.id with
  | some _ => simp
  | none => simp [eq_comm]

theorem lookup_insert? {d e : Directory ρ} {r : EngineRecord ρ} (h : d.insert? r = some e)
    (id : EngineId) : e.lookup id = if r.id = id then some r else d.lookup id := by
  obtain ⟨_, rfl⟩ := insert?_eq_some_iff.1 h
  simp [lookup, Std.ExtTreeMap.getElem?_insert]

theorem lookup_adjust (d : Directory ρ) (id k : EngineId)
    (f : EngineRecord ρ → EngineRecord ρ) :
    (d.adjust id f).lookup k = if id = k then (d.lookup k).map f else d.lookup k := by
  simp only [adjust, lookup]
  split
  case h_1 r h =>
    simp only [Std.ExtTreeMap.getElem?_insert]
    by_cases hk : id = k
    · subst hk; simp [h]
    · simp [hk]
  case h_2 h =>
    split
    case isTrue hk => subst hk; simp [h]
    case isFalse => rfl

end Directory

end EngineHost
