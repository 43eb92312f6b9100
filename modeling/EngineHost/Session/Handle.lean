import EngineHost.Session.Reporting
/-
What a caller does through a handle.  Each operation goes to the engine in its
foreign engine, to the engine's record in the host's directory, or to both.
Registering and subscribing change both sides.  If the foreign engine refuses,
the record gives up what it had taken in, and that is a fault.
-/
namespace EngineHost

/-- An action that an error of the host can end.  What it did to the session
before stays done. -/
abbrev Hosted := ExceptT HostError Run

namespace Hosted

/-- What an engine does, with its errors as the host's. -/
def ofEngine {α : Type} (action : Attempt Session α) : Hosted α :=
  ExceptT.mk do return (← action.run).mapError HostError.ofEngine

def ofExcept {α : Type} (r : Except EngineError α) : Hosted α :=
  ofEngine (Attempt.ofExcept r)

end Hosted

namespace Handle

section

variable (budget : Nat) (go : Callback → Run Int32)

/-- End with a fault, after showing it to the handler. -/
def fail {α : Type} (cause : BindingFault) : Hosted α := do
  raise go cause
  throw (.fault cause)

/-- A handle on a new engine.  If the identity is taken the record under it
stays, and the engine just created is left behind unused. -/
def create (index : Nat) : Hosted Handle := do
  let id ← createIn index
  match (← get).directory.insert? { id } with
  | some d =>
    changeDirectory fun _ => d
    return { id, foreign := index }
  | none => fail go (.duplicateEngine id)

/-- A handle on an engine that the host has a record of.  Whether the foreign
engine knows it is not asked. -/
def attach (index : Nat) (id : EngineId) : Hosted Handle := do
  if (← get).directory.contains id then return { id, foreign := index }
  else throw (.engineNotFound id)

/-- Install a binary. -/
def install (h : Handle) (binary : Guest.Binary) : Hosted Unit := do
  let f ← .ofExcept (((foreignAt h.foreign).get (← get)).install h.id binary)
  (foreignAt h.foreign).write f

/-- Run the installed binary and decode what comes out. -/
def compute (h : Handle) : Hosted TraceResult := do
  let payload ← .ofEngine
    (Foreign.compute budget (sessionHost go) (foreignAt h.foreign) h.id)
  ExceptT.mk (pure (TraceResult.decode payload))

/-- All of the engine's memory. -/
def memory (h : Handle) : Hosted ByteArray :=
  .ofEngine (Foreign.snapshot budget (sessionHost go) (foreignAt h.foreign) h.id)

/-- A range of the engine's memory. -/
def read (h : Handle) (offset length : UInt32) : Hosted ByteArray := do
  let image ← h.memory budget go
  .ofExcept (readAt image offset length)

/-- Replace a range of the engine's memory.  The stated length is looked at
before the engine is. -/
def patch (h : Handle) (offset length : UInt32) (data : ByteArray) : Hosted Unit := do
  .ofExcept (checkLength length data)
  .ofEngine
    (Foreign.patch budget (sessionHost go) (foreignAt h.foreign) h.id offset length data)

/-- The engine's record. -/
def record (h : Handle) (s : Session) : EngineRecord Callback :=
  (s.directory.lookup h.id).getD { id := h.id }

/-- Register a function and bind the import of its name to the dispatcher. -/
def register (h : Handle) (name : String) (function : HostFunction Callback) : Hosted Unit := do
  match (h.record (← get)).register name function with
  | .error cause => fail go cause
  | .ok filed =>
    changeDirectory (·.adjust h.id fun _ => filed)
    let shape := function.shape
    let binding : Binding := { shape, entry := .forShape shape }
    match ((foreignAt h.foreign).get (← get)).bind? h.id name binding with
    | some f => (foreignAt h.foreign).write f
    | none =>
      changeDirectory (·.adjust h.id (·.discard name))
      fail go (.importRejected h.id name shape)

/-- Install a subscriber in the place of the one before it, and arm the log
listener. -/
def subscribe (h : Handle) (subscriber : String → Callback) : Hosted Unit := do
  changeDirectory (·.adjust h.id ({ · with subscriber := some subscriber }))
  match ((foreignAt h.foreign).get (← get)).listen? h.id .dispatcher with
  | some f => (foreignAt h.foreign).write f
  | none =>
    changeDirectory (·.adjust h.id ({ · with subscriber := none }))
    fail go (.logListenerRejected h.id)

/-- Remove the subscriber.  Log items that come later are dropped. -/
def unsubscribe (h : Handle) : Hosted Unit :=
  changeDirectory (·.adjust h.id ({ · with subscriber := none }))

end

end Handle

/-- Run a binary in an engine made for it.  The host makes no record. -/
def executeIn (budget : Nat) (go : Callback → Run Int32) (index : Nat) (binary : Guest.Binary) :
    Attempt Session ByteArray := do
  let id ← createIn index
  let f ← .ofExcept (((foreignAt index).get (← get)).install id binary)
  (foreignAt index).write f
  Foreign.compute budget (sessionHost go) (foreignAt index) id

end EngineHost
