import EngineHost.Guest.Machine
import EngineHost.Tracer.Linking
import EngineHost.Witness.Document
/-
One traced execution, in an instance of its own.  The imports are linked, the
memory is filled and the start function runs.  Then the memory at hand goes
into the trace, the recorded patches are replayed, and the entry export runs.
Every host call that succeeds goes into the trace and is shown to the listener.

The memory of a finished execution is kept whether the guest returned, halted
or trapped.  After a fault on the host's side there is neither a trace nor a
memory.
-/
namespace EngineHost

/-- All that one execution needs, copied out of an engine, so that what the
host does to the engine meanwhile does not reach it. -/
structure Plan where
  engine : EngineId
  module : Guest.Module
  bindings : Bindings
  listener : Option LogEntry
  patches : List Patch

structure Execution where
  payload : ByteArray
  /-- Absent if the guest shows no memory, or never got as far as its entry. -/
  memory : Option ByteArray

/-- Why guest code stopped running. -/
inductive Stopped where
  | returned
  | trapped
  | outOfFuel
  | halted (halt : Halt)
  | faulted (cause : BindingFault)

namespace Stopped

def ofEnding : Guest.Ending → Stopped
  | .returned => .returned
  | .trapped => .trapped
  | .outOfFuel => .outOfFuel

/-- The status reported in place of a trace, or nothing if the guest returned.
A fault is not a status. -/
def status? : Stopped → Except EngineError (Option TraceStatus)
  | .returned => .ok none
  | .trapped => .ok (some .unknown)
  | .outOfFuel => .ok (some .outOfGas)
  | .halted halt => .ok (some halt.status)
  | .faulted cause => .error (.fault cause)

end Stopped

/-- A guest that has stopped, and the trace so far. -/
structure Stage where
  why : Stopped
  machine : Guest.Machine
  trace : Trace

/-- The arguments of a guest's call as the host gets them, behind the marker. -/
def marshal (id : EngineId) (path : CallPath) (args : List Guest.Value) : RawCall :=
  let narrowArgs := args.filterMap fun
    | .i32 w => some w.toInt32
    | _ => none
  let wideArgs := args.filterMap fun
    | .i64 w => some w.toInt64
    | _ => none
  match path with
  | .notify => .notify (id.narrowMarker :: narrowArgs)
  | .i32 => .i32 (id.narrowMarker :: narrowArgs)
  | .i64 => .i64 (id.wideMarker :: wideArgs)

section

variable {σ : Type} (host : Host σ) (plan : Plan)

/-- Put a call into the trace and show it to the listener, if one is armed.
The item is in the trace even if the listener fails. -/
def recordCall (t : Trace) (name : String) (args : List Int64) (result : Option Int32) :
    Turn σ (Except BindingFault Unit × Trace) := do
  let item : HostCall := { index := t.calls.length.toUInt32, name, args, result }
  let t := { t with calls := t.calls ++ [item] }
  match plan.listener with
  | some entry => return (← host.deliver entry plan.engine item.json.toUTF8, t)
  | none => return (.ok (), t)

/-- Serve a call of a bound import.  The answer is what the guest gets back. -/
def serve (name : String) (binding : Binding) (args : List Guest.Value) (t : Trace) :
    Turn σ (Except BindingFault (List Guest.Value) × Trace) := do
  let call := marshal plan.engine binding.entry.path args
  match ← host.enter binding.entry plan.engine name call with
  | .error cause => return (.error cause, t)
  | .ok value =>
    let result := if binding.entry.path = .notify then none else some value
    let (shown, t) ← recordCall host plan t name call.args result
    return (shown.map fun _ => result.toList.map fun v => .i32 v.toUInt32, t)

/-- Serve a call of an import, bound or halting. -/
def serveImport (linked : List Linked) (index : Nat) (args : List Guest.Value) (t : Trace) :
    Turn σ (Except Stopped (List Guest.Value) × Trace) := do
  match linked[index]? with
  | none => return (.error .trapped, t)
  | some l =>
    match l.definition with
    | .halting halt => return (.error (.halted halt), t)
    | .bound binding =>
      let (answer, t) ← serve host plan l.name binding args t
      return (answer.mapError .faulted, t)

/-- Run guest code until it stops, for at most `budget` steps. -/
def runGuest (env : Guest.Env) (linked : List Linked) :
    Nat → Guest.Step → Trace → Turn σ Stage
  | 0, _, _, _ => none
  | budget + 1, .next m, t, s => runGuest env linked budget (Guest.step env m) t s
  | _ + 1, .ended how m, t, s => some (⟨.ofEnding how, m, t⟩, s)
  | budget + 1, .host index args m, t, s =>
    match serveImport host plan linked index args t s with
    | none => none
    | some ((.error why, t), s) => some (⟨why, m, t⟩, s)
    | some ((.ok results, t), s) => runGuest env linked budget (.next (m.resume results)) t s

end

/-- Fill memory with the segments in order, as long as they fit. -/
def placeSegments (memory : ByteArray) : List Guest.Segment → Option ByteArray
  | [] => some memory
  | s :: rest =>
    if Guest.fits memory.size s.offset.toNat s.data.size then
      placeSegments (Bytes.overlay memory s.offset.toNat s.data) rest
    else none

def Guest.Module.env (m : Guest.Module) (config : TracerConfig) : Guest.Env :=
  let declared := (m.memories.head?.bind (·.max)).getD Guest.maxPages
  { module := m
    imported := m.importedFuncs.toArray
    pageLimit := min declared config.maxMemoryPages.toNat }

/-- The machine before anything of the guest has run. -/
def Guest.Module.machine (m : Guest.Module) (config : TracerConfig) : Guest.Machine :=
  { memory := Bytes.zeros ((m.memories.head?.map (·.min)).getD 0 * Guest.pageSize)
    globals := m.globals.toArray
    meter := config.fuelLimit }

/-- Whether the host can see the guest's memory. -/
def Guest.Module.showsMemory (m : Guest.Module) : Bool :=
  (m.export? memoryExport).any (·.kind = .memory)

/-- The function behind the entry export. -/
def Guest.Module.entry? (m : Guest.Module) (config : TracerConfig) : Option Nat :=
  match m.export? config.entryExport with
  | some e => if e.kind = .func ∧ m.funcType? e.index = some {} then some e.index else none
  | none => none

section

variable {σ : Type} (budget : Nat) (host : Host σ) (config : TracerConfig) (plan : Plan)

/-- Fill the memory of a fresh instance and run its start function. -/
def instantiate (linked : List Linked) : Turn σ Stage := do
  let machine := plan.module.machine config
  match placeSegments machine.memory plan.module.segments with
  | none => return ⟨.trapped, machine, {}⟩
  | some memory =>
    let machine := { machine with memory }
    match plan.module.start with
    | none => return ⟨.returned, machine, {}⟩
    | some f =>
      let env := plan.module.env config
      runGuest host plan env linked budget (Guest.enter env f machine) {}

/-- Replay patches on a memory, in order, and note each one. -/
def replay : List Patch → ByteArray → List Region → Except EngineError (ByteArray × List Region)
  | [], memory, noted => .ok (memory, noted)
  | p :: rest, memory, noted => do
    let memory ← p.applyTo memory
    replay rest memory (noted ++ [Region.ofPatch p])

/-- Note the memory that the guest starts with and replay the patches.  Without
a memory there is nowhere to put a patch. -/
def prepareMemory (machine : Guest.Machine) (t : Trace) :
    Except EngineError (Guest.Machine × Trace) :=
  if plan.module.showsMemory then do
    let globalMemory :=
      if config.recordGlobalMemory then
        (Bytes.nonZeroRuns machine.memory).map (Region.ofSpan machine.memory)
      else t.globalMemory
    let (memory, memoryChanges) ← replay plan.patches machine.memory t.memoryChanges
    return ({ machine with memory }, { t with globalMemory, memoryChanges })
  else
    match plan.patches with
    | [] => .ok (machine, t)
    | p :: _ => .error (.memoryOutOfBounds p.offset p.length 0)

/-- Run the entry export of an instance that is ready. -/
def runEntry (linked : List Linked) (machine : Guest.Machine) (t : Trace) :
    Attempt σ Execution := do
  match plan.module.entry? config with
  | none =>
    throw (.validation ("failed to find function export `" ++ config.entryExport ++ "`"))
  | some f =>
    let env := plan.module.env config
    let stage ← runGuest host plan env linked budget (Guest.enter env f machine) t
    let payload ← .ofExcept <| stage.why.status?.map fun
      | none => stage.trace.payload
      | some status => status.payload
    let memory := if plan.module.showsMemory then some stage.machine.memory else none
    return { payload, memory }

/-- Carry out a plan. -/
def carryOut : Attempt σ Execution := do
  let linked ← .ofExcept (link config plan.bindings plan.module)
  let stage ← instantiate budget host config plan linked
  match ← .ofExcept stage.why.status? with
  | some status => return { payload := status.payload, memory := none }
  | none =>
    let (machine, t) ← .ofExcept (prepareMemory config plan stage.machine stage.trace)
    runEntry budget host config plan linked machine t

/-- The memory of a fresh instance, before any patch.  A start function that
does not return is an error here. -/
def initialMemory : Attempt σ ByteArray := do
  let linked ← .ofExcept (link config plan.bindings plan.module)
  let stage ← instantiate budget host config plan linked
  match ← .ofExcept stage.why.status? with
  | some status =>
    throw (.link ("instantiation halted with status " ++ Text.Decimal.write status.code.toInt))
  | none => return if plan.module.showsMemory then stage.machine.memory else .empty

end

end EngineHost
