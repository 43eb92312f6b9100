import EngineHost.Fault
/-
Entry points: what an engine calls when a guest calls an import.  Most lead to
the dispatcher, which finds the function that was registered under the name.
An entry can also stand on its own, as a function of the call.
-/
namespace EngineHost

inductive EntryTarget where
  | dispatcher
  /-- Answers by itself.  A noted entry leaves a mark of each call. -/
  | standalone (noted : Bool)
      (answer : EngineId → String → RawCall → Except BindingFault Int32)

/-- An entry serves the imports of one path.  The answer of a notification
entry is 0, since there is no result to give. -/
structure EntryPoint where
  path : CallPath
  target : EntryTarget

/-- Where an engine reports the items of its execution log. -/
inductive LogEntry where
  | dispatcher
  | standalone (noted : Bool) (answer : EngineId → ByteArray → Except BindingFault Unit)

namespace EntryPoint

def accepts (e : EntryPoint) (s : CallShape) : Bool := e.path.accepts s

/-- The dispatcher's entry for imports of a shape. -/
def forShape (s : CallShape) : EntryPoint := ⟨s.path, .dispatcher⟩

/-- Adds up the arguments.  The sum wraps. -/
def summing (path : CallPath) : EntryPoint :=
  ⟨path, .standalone true fun _ _ call =>
    match call.path with
    | .notify => .ok 0
    | _ => .ok (call.args.foldl (· + ·) 0).toInt32⟩

/-- Fails every call, as if the name were unknown. -/
def refusing (path : CallPath) : EntryPoint :=
  ⟨path, .standalone false fun id name _ => .error (.unknownFunction id name)⟩

end EntryPoint

namespace LogEntry

def accepting : LogEntry := .standalone true fun _ _ => .ok ()

def refusing : LogEntry := .standalone false fun id _ => .error (.unknownEngine id)

end LogEntry

/-- An import that has been bound. -/
structure Binding where
  shape : CallShape
  entry : EntryPoint

abbrev Bindings := Std.ExtTreeMap String Binding

/-- An action in a surrounding world.  It has no result if it would go on
longer than the budget given to it. -/
abbrev Turn (σ : Type) := StateT σ Option

/-- An action that an engine's error can end.  What it did to the world before
stays done. -/
abbrev Attempt (σ : Type) := ExceptT EngineError (Turn σ)

def Attempt.ofExcept {σ α : Type} (r : Except EngineError α) : Attempt σ α := ExceptT.mk (pure r)

/-- What an engine can reach on the host's side while a guest runs. -/
structure Host (σ : Type) where
  enter : EntryPoint → EngineId → String → RawCall → Turn σ (Except BindingFault Int32)
  deliver : LogEntry → EngineId → ByteArray → Turn σ (Except BindingFault Unit)

/-- Where a value sits inside a world. -/
structure Place (σ α : Type) where
  get : σ → α
  set : α → σ → σ
  get_set : ∀ a s, get (set a s) = a
  set_set : ∀ a b s, set a (set b s) = set a s

namespace Place

variable {σ α : Type}

def read (p : Place σ α) : Turn σ α := fun s => some (p.get s, s)

def write (p : Place σ α) (a : α) : Turn σ Unit := fun s => some ((), p.set a s)

/-- A whole world is a place in itself. -/
def whole : Place α α := ⟨id, fun a _ => a, fun _ _ => rfl, fun _ _ _ => rfl⟩

end Place

end EngineHost
