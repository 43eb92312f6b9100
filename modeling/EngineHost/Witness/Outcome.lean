import EngineHost.Bytes.Overlay
import EngineHost.Digest.Blake3
import EngineHost.Fault
import EngineHost.Text.Lossy
/-
What an execution hands back: a trace, or a short status payload in its place.
A status payload is a fixed lead followed by a decimal code.  Only payloads
below a threshold are looked at, so that a trace can start with anything once
it is long enough.
-/
namespace EngineHost

inductive TraceStatus where
  | ok
  | outOfGas
  | executionReverted
  | stopToken
  | unknown
  deriving DecidableEq

/-- Why an execution produced no trace. -/
inductive TraceFailure where
  | outOfGas
  | executionReverted
  | stopToken
  | unknown
  deriving DecidableEq

/-- The two ways a guest can end its own execution through an import. -/
inductive Halt where
  | stop
  | revert
  deriving DecidableEq

/-- What every status payload starts with: `error:`. -/
def statusLead : List UInt8 := [101, 114, 114, 111, 114, 58]

/-- Payloads at least this long are traces, whatever they hold. -/
def statusThreshold : Nat := 15

namespace TraceStatus

def code : TraceStatus → Int32
  | .ok => 0
  | .outOfGas => 1
  | .executionReverted => 2
  | .stopToken => 3
  | .unknown => 4

def ofCode? (code : Int64) : Option TraceStatus :=
  if code = 0 then some .ok
  else if code = 1 then some .outOfGas
  else if code = 2 then some .executionReverted
  else if code = 3 then some .stopToken
  else if code = 4 then some .unknown
  else none

def name : TraceStatus → String
  | .ok => "Ok"
  | .outOfGas => "OutOfGas"
  | .executionReverted => "ExecutionReverted"
  | .stopToken => "StopToken"
  | .unknown => "Unknown"

def payload (s : TraceStatus) : ByteArray :=
  ⟨statusLead.toArray⟩ ++ (Text.Decimal.write s.code.toInt).toUTF8

end TraceStatus

namespace Halt

def status : Halt → TraceStatus
  | .stop => .stopToken
  | .revert => .executionReverted

def message : Halt → String
  | .stop => "guest requested stop"
  | .revert => "guest reverted execution"

end Halt

namespace TraceFailure

/-- Codes other than the three with a meaning of their own are unknown, the
code for success among them. -/
def ofCode (code : Int64) : TraceFailure :=
  match TraceStatus.ofCode? code with
  | some .outOfGas => .outOfGas
  | some .executionReverted => .executionReverted
  | some .stopToken => .stopToken
  | _ => .unknown

def name : TraceFailure → String
  | .outOfGas => "OutOfGas"
  | .executionReverted => "ExecutionReverted"
  | .stopToken => "StopToken"
  | .unknown => "Unknown"

def message : TraceFailure → String
  | .outOfGas => "out of gas"
  | .executionReverted => "execution reverted"
  | .stopToken => "stop token"
  | .unknown => "unknown"

end TraceFailure

inductive TraceResult where
  | success (payload : ByteArray)
  | failure (cause : TraceFailure)
  deriving DecidableEq

namespace TraceResult

/-- The code of a status payload, read from what follows the lead. -/
def statusCode? (code : ByteArray) : Option Int64 :=
  (String.fromUTF8? code).bind Text.Decimal.int64?

/-- Whether a payload is held to be a status.  A long one is never looked at. -/
def isStatus (payload : ByteArray) : Bool :=
  payload.size < statusThreshold && statusLead.isPrefixOf payload.data.toList

def decode (payload : ByteArray) : Except HostError TraceResult :=
  if isStatus payload then
    match statusCode? (payload.extract statusLead.length payload.size) with
    | some code => .ok (.failure (.ofCode code))
    | none => .error (.malformedStatus (Text.Lossy.text payload))
  else .ok (.success payload)

def isSuccess : TraceResult → Bool
  | .success _ => true
  | .failure _ => false

def payload? : TraceResult → Option ByteArray
  | .success payload => some payload
  | .failure _ => none

def failure? : TraceResult → Option TraceFailure
  | .success _ => none
  | .failure cause => some cause

def toExcept : TraceResult → Except TraceFailure ByteArray
  | .success payload => .ok payload
  | .failure cause => .error cause

/-- The digest of a trace.  A failure has none. -/
def digest? (r : TraceResult) : Option ByteArray := r.payload?.map Digest.Blake3.hash

end TraceResult

end EngineHost
