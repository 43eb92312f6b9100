import EngineHost.Guest.Checking
import EngineHost.Tracer.Execution
/-
The tracing engine: for every identity a module, its bindings, its log
listener, the patches recorded since the module was installed, and an image of
the guest's memory.  The image is captured when it is first asked for, and
replaced by the memory that a trace ends with.

An execution works on a copied plan.  While it runs, the host may do anything
to the engine, the very slot included, and the results are stored into whatever
the slot has become.
-/
namespace EngineHost

structure TracerSlot where
  module : Option Guest.Module := none
  bindings : Bindings := ∅
  listener : Option LogEntry := none
  /-- In the order they were accepted. -/
  patches : List Patch := []
  image : Option ByteArray := none

structure Tracer where
  config : TracerConfig := {}
  slots : EngineTable TracerSlot := ∅

namespace Tracer

def slot (t : Tracer) (id : EngineId) : Except EngineError TracerSlot :=
  match t.slots[id]? with
  | some s => .ok s
  | none => .error (.unknownEngine id)

def setSlot (t : Tracer) (id : EngineId) (s : TracerSlot) : Tracer :=
  { t with slots := t.slots.insert id s }

def create (t : Tracer) (id : EngineId) : Tracer := t.setSlot id {}

/-- Install a module.  Patches and image belong to the module before it, so
they go.  A binary that is refused leaves everything as it was. -/
def install (t : Tracer) (id : EngineId) (binary : Guest.Binary) : Except EngineError Tracer := do
  let s ← t.slot id
  let module ← binary.compile.mapError fun flaw => .compile flaw.message
  approve t.config module
  return t.setSlot id { s with module := some module, patches := [], image := none }

def plan (t : Tracer) (id : EngineId) : Except EngineError Plan := do
  let s ← t.slot id
  match s.module with
  | none => .error (.noBinary id)
  | some module =>
    return { engine := id, module, bindings := s.bindings, listener := s.listener,
             patches := s.patches }

/-- Bind an import, if the engine exists and the entry can serve the shape.  A
later binding of the same name replaces this one. -/
def bind? (t : Tracer) (id : EngineId) (name : String) (binding : Binding) : Option Tracer :=
  if binding.entry.accepts binding.shape then
    (t.slots[id]?).map fun s =>
      t.setSlot id { s with bindings := s.bindings.insert name binding }
  else none

def listen? (t : Tracer) (id : EngineId) (entry : LogEntry) : Option Tracer :=
  (t.slots[id]?).map fun s => t.setSlot id { s with listener := some entry }

section

variable {σ : Type} (budget : Nat) (host : Host σ) (here : Place σ Tracer)

/-- Run the installed module, and keep the memory it ends with as the image. -/
def compute (id : EngineId) : Attempt σ ByteArray := do
  let t ← here.read
  let plan ← .ofExcept (t.plan id)
  let done ← carryOut budget host t.config plan
  match done.memory with
  | some memory =>
    let t ← here.read
    let s ← .ofExcept (t.slot id)
    here.write (t.setSlot id { s with image := some memory })
  | none => pure ()
  return done.payload

/-- Capture the image if there is none.  If another one has appeared while the
start function ran, that one stays. -/
def capture (id : EngineId) : Attempt σ TracerSlot := do
  let t ← here.read
  let s ← .ofExcept (t.slot id)
  if s.image.isSome then return s
  let plan ← .ofExcept (t.plan id)
  let memory ← initialMemory budget host t.config plan
  let t ← here.read
  let s ← .ofExcept (t.slot id)
  let s := { s with image := some (s.image.getD memory) }
  here.write (t.setSlot id s)
  return s

def snapshot (id : EngineId) : Attempt σ ByteArray := do
  let s ← capture budget host here id
  return s.image.getD .empty

/-- Change the image and record the patch for replay.  The stated length is
looked at before the engine is. -/
def patch (id : EngineId) (offset length : UInt32) (data : ByteArray) : Attempt σ Unit := do
  let p ← .ofExcept (Patch.make offset length data)
  let s ← capture budget host here id
  let image ← .ofExcept (p.applyTo (s.image.getD .empty))
  let t ← here.read
  here.write (t.setSlot id { s with image := some image, patches := s.patches ++ [p] })

end

end Tracer

end EngineHost
