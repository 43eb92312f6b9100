import EngineHost.Hosting.Function
/-
What the host keeps for one engine: the functions registered under each name,
and at most one subscriber to the engine's log.
-/
namespace EngineHost

structure EngineRecord (ρ : Type) where
  id : EngineId
  functions : Std.ExtTreeMap String (HostFunction ρ) := ∅
  subscriber : Option (String → ρ) := none

/-- What can be seen of a record from outside. -/
structure RecordView where
  id : EngineId
  names : List String
  subscribed : Bool
  deriving DecidableEq

namespace EngineRecord

variable {ρ : Type}

/-- Register a function.  A name can be registered only once. -/
def register (r : EngineRecord ρ) (name : String) (f : HostFunction ρ) :
    Except BindingFault (EngineRecord ρ) :=
  if r.functions.contains name then .error (.duplicateFunction r.id name)
  else .ok { r with functions := r.functions.insert name f }

/-- Drop a registration that an engine refused to bind. -/
def discard (r : EngineRecord ρ) (name : String) : EngineRecord ρ :=
  { r with functions := r.functions.erase name }

def function (r : EngineRecord ρ) (name : String) : Except BindingFault (HostFunction ρ) :=
  match r.functions[name]? with
  | some f => .ok f
  | none => .error (.unknownFunction r.id name)

/-- Registered names, in the order of their characters. -/
def names (r : EngineRecord ρ) : List String := r.functions.keys

def view (r : EngineRecord ρ) : RecordView :=
  { id := r.id, names := r.names, subscribed := r.subscriber.isSome }

theorem register_eq_ok_iff {r s : EngineRecord ρ} {name : String} {f : HostFunction ρ} :
    r.register name f = .ok s ↔
      r.functions[name]? = none ∧ s = { r with functions := r.functions.insert name f } := by
  unfold register
  split
  case isTrue h => simp_all
  case isFalse h =>
    rw [Except.ok.injEq, eq_comm (b := s)]
    simp_all

theorem register_eq_error_iff {r : EngineRecord ρ} {name : String} {f : HostFunction ρ}
    {cause : BindingFault} :
    r.register name f = .error cause ↔
      r.functions.contains name ∧ cause = .duplicateFunction r.id name := by
  unfold register
  split
  case isTrue h =>
    rw [Except.error.injEq, eq_comm (b := cause)]
    simp_all
  case isFalse h => simp_all

/-- Discarding what was just registered leaves the record as it was. -/
theorem discard_register {r : EngineRecord ρ} {name : String} {f : HostFunction ρ}
    {s : EngineRecord ρ} (h : r.register name f = .ok s) : s.discard name = r := by
  obtain ⟨hn, rfl⟩ := register_eq_ok_iff.1 h
  simp only [discard]
  congr
  apply Std.ExtTreeMap.ext_getElem?
  intro k
  simp only [Std.ExtTreeMap.getElem?_erase, Std.ExtTreeMap.getElem?_insert]
  grind

end EngineRecord

namespace RecordView

/-- The structured form of a record. -/
def debugText (v : RecordView) : String :=
  "EngineRecord \x7b id: " ++ v.id.debugText ++ ", host_functions: " ++ Text.Quoted.list v.names ++
    ", log_subscriber: " ++ (if v.subscribed then "true" else "false") ++ " \x7d"

/-- The structured form of a handle on the engine of this record. -/
def handleDebugText (v : RecordView) : String :=
  "WasmEngine \x7b id: " ++ v.id.debugText ++ ", record: " ++ v.debugText ++ " \x7d"

end RecordView

end EngineHost
