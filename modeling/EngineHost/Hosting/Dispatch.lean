import EngineHost.Hosting.Directory
/-
Dispatch: from a raw call to the callback that serves it.  A call resolves in a
fixed order: the engine, the name, the marker, and then the declared shape
against the path taken and the number of slots behind the marker.  What comes
out is the callback applied to its arguments, so that a call which does not
resolve has run nothing.
-/
namespace EngineHost

/-- The slots behind the marker, or what was found in its place. -/
def stripMarker {α : Type} [DecidableEq α] (marker : α) : List α → Except (Option α) (List α)
  | first :: rest => if first = marker then .ok rest else .error (some first)
  | [] => .error none

namespace Directory

variable {ρ : Type}

/-- Find the function that was registered under a name. -/
def functionOf (d : Directory ρ) (id : EngineId) (name : String) :
    Except BindingFault (HostFunction ρ) :=
  match d.lookup id with
  | some record => record.function name
  | none => .error (.unknownEngine id)

def resolve (d : Directory ρ) (id : EngineId) (name : String) (call : RawCall) :
    Except BindingFault ρ := do
  let f ← d.functionOf id name
  let mismatch (path : CallPath) (count : Nat) : Except BindingFault ρ :=
    .error (.shapeMismatch id name f.shape (path.shape count))
  match call with
  | .notify slots =>
    let args ← (stripMarker id.narrowMarker slots).mapError fun found =>
      .markerMismatch id name (found.map Int32.toInt64)
    match f with
    | .notify arity _ callback =>
      if arity = args.length then .ok (callback args) else mismatch .notify args.length
    | _ => mismatch .notify args.length
  | .i32 slots =>
    let args ← (stripMarker id.narrowMarker slots).mapError fun found =>
      .markerMismatch id name (found.map Int32.toInt64)
    match f with
    | .i32 params callback =>
      if params = args.length then .ok (callback args) else mismatch .i32 args.length
    | _ => mismatch .i32 args.length
  | .i64 slots =>
    let args ← (stripMarker id.wideMarker slots).mapError fun found =>
      .markerMismatch id name found
    match f with
    | .i64 params callback =>
      if params = args.length then .ok (callback args) else mismatch .i64 args.length
    | _ => mismatch .i64 args.length

/-- The subscriber applied to a log item, if there is a subscriber.  The item
has to be text even if nobody listens. -/
def resolveItem (d : Directory ρ) (id : EngineId) (item : ByteArray) :
    Except BindingFault (Option ρ) :=
  match d.lookup id with
  | none => .error (.unknownEngine id)
  | some record =>
    match String.fromUTF8? item with
    | none => .error (.malformedLogItem id)
    | some text => .ok (record.subscriber.map (· text))

end Directory

end EngineHost
