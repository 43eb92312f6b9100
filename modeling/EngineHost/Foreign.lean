import EngineHost.Scripted
import EngineHost.Tracer.Engine
/-
Foreign engines: what the host drives.  A foreign engine is a scripted one, a
tracing one, or a scripted one pinned to a single identity, which it hands out
again each time it is asked to create an engine.
-/
namespace EngineHost

inductive Foreign where
  | scripted (engine : Scripted)
  | pinned (engine : Scripted) (id : Option EngineId)
  | tracing (engine : Tracer)

instance : Inhabited Foreign := ⟨.scripted {}⟩

namespace Foreign

/-- The scripted engine inside, if there is one. -/
def scripted? : Foreign → Option Scripted
  | .scripted e | .pinned e _ => some e
  | .tracing _ => none

def tracer? : Foreign → Option Tracer
  | .tracing t => some t
  | _ => none

/-- Put a scripted engine in the place of the one inside. -/
def withScripted (f : Foreign) (e : Scripted) : Foreign :=
  match f with
  | .pinned _ id => .pinned e id
  | _ => .scripted e

/-- Create an engine, drawing an identity for it if one is needed. -/
def create (f : Foreign) (ids : IdSource) : EngineId × IdSource × Foreign :=
  let (id, rest) := ids.draw
  match f with
  | .scripted e => (id, rest, .scripted (e.create id))
  | .tracing t => (id, rest, .tracing (t.create id))
  | .pinned e none => (id, rest, .pinned (e.create id) (some id))
  | .pinned e (some kept) => (kept, ids, .pinned e (some kept))

def install (f : Foreign) (id : EngineId) (binary : Guest.Binary) : Except EngineError Foreign :=
  match f with
  | .scripted e | .pinned e _ => (e.install id binary).map f.withScripted
  | .tracing t => (t.install id binary).map .tracing

def bind? (f : Foreign) (id : EngineId) (name : String) (binding : Binding) : Option Foreign :=
  match f with
  | .scripted e | .pinned e _ => (e.bind? id name binding).map f.withScripted
  | .tracing t => (t.bind? id name binding).map .tracing

def listen? (f : Foreign) (id : EngineId) (entry : LogEntry) : Option Foreign :=
  match f with
  | .scripted e | .pinned e _ => (e.listen? id entry).map f.withScripted
  | .tracing t => (t.listen? id entry).map .tracing

end Foreign

namespace Place

/-- The tracing engine at a place that holds a foreign engine. -/
def tracer {σ : Type} (p : Place σ Foreign) : Place σ Tracer where
  get s := (p.get s).tracer?.getD {}
  set t := p.set (.tracing t)
  get_set t s := by rw [p.get_set]; rfl
  set_set _ _ _ := p.set_set _ _ _

end Place

namespace Foreign

section

variable {σ : Type} (budget : Nat) (host : Host σ) (here : Place σ Foreign)

def compute (id : EngineId) : Attempt σ ByteArray := do
  match ← here.read with
  | .scripted e | .pinned e _ => .ofExcept (e.compute id)
  | .tracing _ => Tracer.compute budget host here.tracer id

def snapshot (id : EngineId) : Attempt σ ByteArray := do
  match ← here.read with
  | .scripted e | .pinned e _ => .ofExcept (e.snapshot id)
  | .tracing _ => Tracer.snapshot budget host here.tracer id

def patch (id : EngineId) (offset length : UInt32) (data : ByteArray) : Attempt σ Unit := do
  let f ← here.read
  match f with
  | .scripted e | .pinned e _ =>
    let e ← .ofExcept (e.patch id offset length data)
    here.write (f.withScripted e)
  | .tracing _ => Tracer.patch budget host here.tracer id offset length data

end

end Foreign

end EngineHost
