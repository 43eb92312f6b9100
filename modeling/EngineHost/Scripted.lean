import EngineHost.Call.Entry
import EngineHost.Guest.Checking
import EngineHost.Witness.Patch
/-
The scripted engine.  It runs no guest: its traces are set by hand, and calls
of its imports and items of its log are made by hand, in the form in which a
running guest would make them.
-/
namespace EngineHost

structure ScriptedSlot where
  binary : Option Guest.Binary := none
  memory : ByteArray
  bindings : Bindings := ∅
  listener : Option LogEntry := none
  /-- What a trace will be. -/
  output : ByteArray := "\x7b\x7d".toUTF8
  /-- Whether imports are refused. -/
  refusing : Bool := false

structure Scripted where
  /-- The number of zero bytes that a fresh memory has. -/
  memorySize : Nat := 65536
  slots : EngineTable ScriptedSlot := ∅

/-- A call of an import made by hand. -/
inductive GuestCall where
  | notify (args : List Int32)
  | i32 (args : List Int32)
  | i64 (args : List Int64)

namespace GuestCall

def path : GuestCall → CallPath
  | .notify _ => .notify
  | .i32 _ => .i32
  | .i64 _ => .i64

/-- The call as it reaches an entry on some path, converted to its width. -/
def raw (c : GuestCall) (id : EngineId) (path : CallPath) : RawCall :=
  match c with
  | .notify args | .i32 args => .ofNarrow id path args
  | .i64 args => .ofWide id path args

end GuestCall

namespace Scripted

def slot (e : Scripted) (id : EngineId) : Except EngineError ScriptedSlot :=
  match e.slots[id]? with
  | some s => .ok s
  | none => .error (.unknownEngine id)

def setSlot (e : Scripted) (id : EngineId) (s : ScriptedSlot) : Scripted :=
  { e with slots := e.slots.insert id s }

/-- Change the slot of an engine.  An unknown engine is left alone. -/
def adjust (e : Scripted) (id : EngineId) (f : ScriptedSlot → ScriptedSlot) : Scripted :=
  match e.slots[id]? with
  | some s => e.setSlot id (f s)
  | none => e

def create (e : Scripted) (id : EngineId) : Scripted :=
  e.setSlot id { memory := Bytes.zeros e.memorySize }

def install (e : Scripted) (id : EngineId) (binary : Guest.Binary) :
    Except EngineError Scripted := do
  let s ← e.slot id
  return e.setSlot id { s with binary := some binary }

def compute (e : Scripted) (id : EngineId) : Except EngineError ByteArray := do
  let s ← e.slot id
  if s.binary.isNone then .error (.noBinary id) else return s.output

def snapshot (e : Scripted) (id : EngineId) : Except EngineError ByteArray := do
  let s ← e.slot id
  return s.memory

def patch (e : Scripted) (id : EngineId) (offset length : UInt32) (data : ByteArray) :
    Except EngineError Scripted := do
  let s ← e.slot id
  checkLength length data
  let (start, _) ← rangeIn s.memory.size offset length
  return e.setSlot id { s with memory := Bytes.overlay s.memory start data }

def bind? (e : Scripted) (id : EngineId) (name : String) (binding : Binding) : Option Scripted :=
  match e.slots[id]? with
  | some s =>
    if !s.refusing && binding.entry.accepts binding.shape then
      some (e.setSlot id { s with bindings := s.bindings.insert name binding })
    else none
  | none => none

def listen? (e : Scripted) (id : EngineId) (entry : LogEntry) : Option Scripted :=
  (e.slots[id]?).map fun s => e.setSlot id { s with listener := some entry }

def setOutput (e : Scripted) (id : EngineId) (payload : ByteArray) : Scripted :=
  e.adjust id ({ · with output := payload })

def refuse (e : Scripted) (id : EngineId) : Scripted := e.adjust id ({ · with refusing := true })

def binary? (e : Scripted) (id : EngineId) : Option Guest.Binary := (e.slots[id]?).bind (·.binary)

/-- Bound names and their shapes, in the order of the names. -/
def imports (e : Scripted) (id : EngineId) : List (String × CallShape) :=
  match e.slots[id]? with
  | some s => s.bindings.toList.map fun (name, binding) => (name, binding.shape)
  | none => []

def listener? (e : Scripted) (id : EngineId) : Option LogEntry :=
  (e.slots[id]?).bind (·.listener)

/-- The entry that a name is bound to.  Here an unknown engine is a fault. -/
def entry (e : Scripted) (id : EngineId) (name : String) : Except BindingFault EntryPoint :=
  match e.slots[id]? with
  | none => .error (.unknownEngine id)
  | some s =>
    match s.bindings[name]? with
    | some binding => .ok binding.entry
    | none => .error (.unknownFunction id name)

section

variable {σ : Type} (host : Host σ)

def call (e : Scripted) (id : EngineId) (name : String) (c : GuestCall) :
    Turn σ (Except BindingFault Int32) :=
  match e.entry id name with
  | .error cause => return .error cause
  | .ok entry => host.enter entry id name (c.raw id entry.path)

/-- Report a log item.  Without a listener it is dropped. -/
def emit (e : Scripted) (id : EngineId) (item : ByteArray) : Turn σ (Except BindingFault Unit) :=
  match e.listener? id with
  | some entry => host.deliver entry id item
  | none => return .ok ()

end

end Scripted

end EngineHost
