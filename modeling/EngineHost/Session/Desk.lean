import EngineHost.Session.Reporting
/-
The desk: records that a caller makes and files in a directory of its own, and
calls dispatched through that directory.  Faults here go to the caller alone.
-/
namespace EngineHost

namespace Desk

/-- The record that a name stands for. -/
def record? (d : Desk) (name : String) : Option (EngineRecord Callback) :=
  match d.drafts[name]? with
  | some (.loose record) => some record
  | some (.filed id) => d.directory.lookup id
  | none => none

/-- Give a name a record.  What it stood for before is not changed. -/
def make (d : Desk) (name : String) (record : EngineRecord Callback) : Desk :=
  { d with drafts := d.drafts.insert name (.loose record) }

/-- Change the record that a name stands for, where it is. -/
def adjust (d : Desk) (name : String) (f : EngineRecord Callback → EngineRecord Callback) :
    Desk :=
  match d.drafts[name]? with
  | some (.loose record) => d.make name (f record)
  | some (.filed id) => { d with directory := d.directory.adjust id f }
  | none => d

/-- File the record that a name stands for, unless its identity is taken. -/
def file? (d : Desk) (name : String) : Option Desk := do
  let record ← d.record? name
  let directory ← d.directory.insert? record
  return { directory, drafts := d.drafts.insert name (.filed record.id) }

end Desk

/-- The answer to a call, by the path it took. -/
def Answer.ofCall (path : CallPath) : Except BindingFault Int32 → Answer
  | .ok value => if path = .notify then .ok else .number value
  | .error cause => .fault cause

/-- The answer to a log item. -/
def Answer.ofItem : Except BindingFault Unit → Answer
  | .ok () => .ok
  | .error cause => .fault cause

/-- Change the desk. -/
def changeDesk (f : Desk → Desk) : Run Unit := modify fun s => { s with desk := f s.desk }

/-- What an operation does with the record of a name. -/
def withRecord (name : String) (f : EngineRecord Callback → Run Answer) : Run Answer := do
  match (← get).desk.record? name with
  | some record => f record
  | none => return .noSuchName

def deskOp (go : Callback → Run Int32) : DeskOp Callback → Run Answer
  | .make name id => do
    changeDesk (·.make name { id })
    return .nothing
  | .insert name => withRecord name fun _ => do
    match (← get).desk.file? name with
    | some d =>
      changeDesk fun _ => d
      return .flag true
    | none => return .flag false
  | .lookup id => return .record ((((← get).desk.directory.lookup id)).map (·.view))
  | .contains id => return .flag ((← get).desk.directory.contains id)
  | .size => return .count (← get).desk.directory.size
  | .register name functionName function => withRecord name fun record => do
    match record.register functionName function with
    | .ok changed =>
      changeDesk (·.adjust name fun _ => changed)
      return .shape function.shape
    | .error cause => return .fault cause
  | .function name functionName => withRecord name fun record => do
    match record.function functionName with
    | .ok function => return .text function.debugText
    | .error cause => return .fault cause
  | .names name => withRecord name fun record => return .names record.names
  | .subscribe name subscriber => withRecord name fun record => do
    changeDesk (·.adjust name ({ · with subscriber := some subscriber }))
    return .flag record.subscriber.isSome
  | .unsubscribe name => withRecord name fun record => do
    changeDesk (·.adjust name ({ · with subscriber := none }))
    return .flag record.subscriber.isSome
  | .debug name => withRecord name fun record => return .text record.view.debugText
  | .dispatch id name call => do
    return .ofCall call.path (← runCall go (← get).desk.directory id name call)
  | .deliver id item => do return .ofItem (← runItem go (← get).desk.directory id item)

end EngineHost
