import EngineHost.Call.Shape
import EngineHost.Text.Decimal
import EngineHost.Text.Quoted
/-
What can go wrong, as causes.  A binding fault means that the host's table and
the engine's table have come apart; it always names the engine, and the
function if one is involved.  An engine error is what an engine reports of its
own operations, and a host error is what a caller of the host sees.
-/
namespace EngineHost

inductive BindingFault where
  | unknownEngine (id : EngineId)
  | duplicateEngine (id : EngineId)
  | unknownFunction (id : EngineId) (name : String)
  | duplicateFunction (id : EngineId) (name : String)
  /-- The call took another path, or carried another number of arguments, than
  the function was declared with. -/
  | shapeMismatch (id : EngineId) (name : String) (declared invoked : CallShape)
  /-- The first slot was missing or named another engine. -/
  | markerMismatch (id : EngineId) (name : String) (found : Option Int64)
  | importRejected (id : EngineId) (name : String) (shape : CallShape)
  | logListenerRejected (id : EngineId)
  | malformedLogItem (id : EngineId)
  deriving DecidableEq

namespace BindingFault

def engine : BindingFault → EngineId
  | .unknownEngine id | .duplicateEngine id | .unknownFunction id _
  | .duplicateFunction id _ | .shapeMismatch id _ _ _ | .markerMismatch id _ _
  | .importRejected id _ _ | .logListenerRejected id | .malformedLogItem id => id

def function : BindingFault → Option String
  | .unknownFunction _ name | .duplicateFunction _ name | .shapeMismatch _ name _ _
  | .markerMismatch _ name _ | .importRejected _ name _ => some name
  | _ => none

def markerText : Option Int64 → String
  | some m => "Some(" ++ Text.Decimal.write m.toInt ++ ")"
  | none => "None"

def message : BindingFault → String
  | .unknownEngine id => "engine " ++ id.text ++ " is not registered"
  | .duplicateEngine id => "engine " ++ id.text ++ " is already registered"
  | .unknownFunction id name =>
    "engine " ++ id.text ++ ": no host function registered as '" ++ name ++ "'"
  | .duplicateFunction id name =>
    "engine " ++ id.text ++ ": host function '" ++ name ++ "' is already registered"
  | .shapeMismatch id name declared invoked =>
    "engine " ++ id.text ++ ": host function '" ++ name ++ "' declared as " ++ declared.text ++
      " but invoked as " ++ invoked.text
  | .markerMismatch id name found =>
    "engine " ++ id.text ++ ": call to '" ++ name ++ "' carried marker " ++ markerText found ++
      " instead of the engine id"
  | .importRejected id name shape =>
    "engine " ++ id.text ++ ": foreign engine rejected import '" ++ name ++ "' with shape " ++
      shape.text
  | .logListenerRejected id =>
    "engine " ++ id.text ++ ": foreign engine rejected the log listener"
  | .malformedLogItem id => "engine " ++ id.text ++ ": log item is not valid UTF-8"

end BindingFault

inductive EngineError where
  | unknownEngine (id : EngineId)
  | noBinary (id : EngineId)
  /-- The binary is no module. -/
  | compile (reason : String)
  /-- The module does not meet the engine's requirements. -/
  | validation (reason : String)
  /-- Imports could not be bound, or the module could not be instantiated. -/
  | link (reason : String)
  | memoryOutOfBounds (offset length : UInt32) (size : Nat)
  | patchLengthMismatch (length : UInt32) (dataLength : Nat)
  | serialization (reason : String)
  /-- A binding fault that ended the execution. -/
  | fault (cause : BindingFault)
  deriving DecidableEq

namespace EngineError

def message : EngineError → String
  | .unknownEngine id => "foreign engine has no engine " ++ id.text
  | .noBinary id => "engine " ++ id.text ++ " has no binary installed"
  | .compile reason => "compile error: " ++ reason
  | .validation reason => "validation error: " ++ reason
  | .link reason => "link error: " ++ reason
  | .memoryOutOfBounds offset length size =>
    "memory range at offset " ++ toString offset.toNat ++ " with length " ++
      toString length.toNat ++ " exceeds memory size " ++ toString size
  | .patchLengthMismatch length dataLength =>
    "patch length " ++ toString length.toNat ++ " does not match " ++ toString dataLength ++
      " data bytes"
  | .serialization reason => "trace serialization failed: " ++ reason
  | .fault cause => cause.message

end EngineError

inductive HostError where
  /-- A binding fault, already reported to whoever handles them. -/
  | fault (cause : BindingFault)
  | engine (cause : EngineError)
  | engineNotFound (id : EngineId)
  /-- A status payload whose code is not a decimal integer. -/
  | malformedStatus (status : String)
  deriving DecidableEq

namespace HostError

/-- A fault inside an engine's error comes out as the fault itself. -/
def ofEngine : EngineError → HostError
  | .fault cause => .fault cause
  | e => .engine e

def fault? : HostError → Option BindingFault
  | .fault cause => some cause
  | _ => none

def message : HostError → String
  | .fault cause => "fatal: " ++ cause.message
  | .engine cause => "foreign engine error: " ++ cause.message
  | .engineNotFound id => "engine " ++ id.text ++ " is not registered"
  | .malformedStatus status => "malformed trace status " ++ Text.Quoted.encode status

end HostError

end EngineHost
