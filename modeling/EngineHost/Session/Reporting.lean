import EngineHost.Hosting.Dispatch
import EngineHost.Session.State
/-
What engines reach on the host's side.  A call that comes in through one of the
dispatcher's entries is resolved in the host's directory and runs the callback
found there.  A fault is shown to the installed handler before it is returned.

Everything here is given what running a callback means.
-/
namespace EngineHost

section

variable (go : Callback → Run Int32)

/-- Show a fault to the handler, if there is one.  The handler is taken out of
the session first, so it may install another or none. -/
def raise (cause : BindingFault) : Run Unit := do
  match (← get).handler with
  | some handler =>
    let _ ← go (handler cause)
  | none => return

/-- Show the fault that an action ends with, if it does. -/
def reporting {α : Type} (action : Run (Except BindingFault α)) :
    Run (Except BindingFault α) := do
  let answer ← action
  match answer with
  | .error cause => raise go cause
  | .ok _ => pure ()
  return answer

/-- Run the callback that a call resolves to in a directory.  A notification
has no result, whatever its callback ends with. -/
def runCall (d : Directory Callback) (id : EngineId) (name : String) (call : RawCall) :
    Run (Except BindingFault Int32) := do
  match d.resolve id name call with
  | .error cause => return .error cause
  | .ok callback =>
    let value ← go callback
    return .ok (if call.path = .notify then 0 else value)

/-- Run the subscriber on a log item.  Without a subscriber it is dropped. -/
def runItem (d : Directory Callback) (id : EngineId) (item : ByteArray) :
    Run (Except BindingFault Unit) := do
  match d.resolveItem id item with
  | .error cause => return .error cause
  | .ok none => return .ok ()
  | .ok (some callback) =>
    let _ ← go callback
    return .ok ()

/-- A call through the dispatcher's entries. -/
def dispatchCall (id : EngineId) (name : String) (call : RawCall) :
    Run (Except BindingFault Int32) :=
  reporting go do runCall go (← get).directory id name call

/-- A log item through the dispatcher's entry. -/
def dispatchItem (id : EngineId) (item : ByteArray) : Run (Except BindingFault Unit) :=
  reporting go do runItem go (← get).directory id item

/-- The host's side of a session. -/
def sessionHost : Host Session where
  enter entry id name call :=
    match entry.target with
    | .dispatcher => dispatchCall go id name call
    | .standalone noted answer => do
      if noted then note (.entered id name call)
      return answer id name call
  deliver entry id item :=
    match entry with
    | .dispatcher => dispatchItem go id item
    | .standalone noted answer => do
      if noted then note (.delivered id item)
      return answer id item

end

end EngineHost
