import EngineHost.Bytes.Runs
import EngineHost.Text.JsonText
import EngineHost.Witness.Patch
/-
The document that a traced execution produces: what memory held at the start,
the patches applied to it, and the host calls in the order they were made.
Its written form is compact JSON with the members in a fixed order.
-/
namespace EngineHost

/-- A stretch of memory and where it sits. -/
structure Region where
  offset : UInt32
  length : UInt32
  data : ByteArray
  deriving DecidableEq

/-- One call of a host import.  The arguments are those the guest passed, in
the wide width. -/
structure HostCall where
  index : UInt32
  name : String
  args : List Int64
  /-- Absent for notifications, which have no result. -/
  result : Option Int32
  deriving DecidableEq

structure Trace where
  /-- The non-zero stretches of memory right after instantiation. -/
  globalMemory : List Region := []
  /-- The patches, in the order they were applied. -/
  memoryChanges : List Region := []
  calls : List HostCall := []
  deriving DecidableEq

namespace Region

def make (offset : UInt32) (data : ByteArray) : Region :=
  { offset, length := data.size.toUInt32, data }

def ofPatch (p : Patch) : Region := make p.offset p.data

def ofSpan (mem : ByteArray) (s : Bytes.Span) : Region :=
  make s.start.toUInt32 (mem.extract s.start s.stop)

def json (r : Region) : String :=
  Text.JsonText.object [
    ("offset", toString r.offset.toNat),
    ("len", toString r.length.toNat),
    ("data", Text.JsonText.string (Text.Hex.encode r.data))]

end Region

namespace HostCall

/-- The result is the last member, and it is left out when there is none. -/
def json (c : HostCall) : String :=
  Text.JsonText.object ([
    ("index", toString c.index.toNat),
    ("import", Text.JsonText.string c.name),
    ("params", Text.JsonText.array (c.args.map fun a => Text.JsonText.number a.toInt))] ++
    match c.result with
    | some v => [("result", Text.JsonText.number v.toInt)]
    | none => [])

end HostCall

namespace Trace

def json (t : Trace) : String :=
  Text.JsonText.object [
    ("global_memory", Text.JsonText.array (t.globalMemory.map Region.json)),
    ("memory_changes", Text.JsonText.array (t.memoryChanges.map Region.json)),
    ("logs", Text.JsonText.array (t.calls.map HostCall.json))]

def payload (t : Trace) : ByteArray := t.json.toUTF8

end Trace

end EngineHost
