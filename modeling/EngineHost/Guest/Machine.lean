import EngineHost.Bytes.Overlay
import EngineHost.Guest.Numeric
/-
Execution of guest code, one instruction at a time.  The machine keeps its
labels and callers in a list of its own, so nothing depends on how deep the
guest nests.  A step either goes on, asks for an imported function, or ends.

Operands are checked as they are taken.  Code that was checked never fails such
a test, and code that was not checked traps there.
-/
namespace EngineHost
namespace Guest

/-- Where a branch can lead, and where control goes when a body ends.  Each
entry holds the operands that lie below it. -/
inductive Control where
  | block (arity : Nat) (below : List Value) (rest : Code)
  | loop (body : Code) (below : List Value) (rest : Code)
  | call (arity : Nat) (locals : Array Value) (below : List Value) (rest : Code)

/-- Fuel.  A guest without a limit has no meter. -/
abbrev Meter := Option Nat

namespace Meter

def spend (m : Meter) (cost : Nat) : Meter := m.map (· - cost)

/-- Running out shows at two places only, where a function starts and where a
loop turns. -/
def isEmpty (m : Meter) : Bool := m == some 0

end Meter

/-- Instructions that generate no code of their own cost nothing. -/
def Instr.cost : Instr → Nat
  | .nop | .drop | .unreachable | .block _ _ | .loop _ _ => 0
  | _ => 1

structure Machine where
  code : Code := []
  operands : List Value := []
  locals : Array Value := #[]
  control : List Control := []
  depth : Nat := 0
  memory : ByteArray := .empty
  globals : Array UInt32 := #[]
  meter : Meter := none

/-- Why a run inside the guest ended. -/
inductive Ending where
  | returned
  | trapped
  | outOfFuel

inductive Step where
  | next (m : Machine)
  | ended (how : Ending) (m : Machine)
  /-- The guest calls the imported function with this number, and goes on with
  `m` once the results have been put on its operands. -/
  | host (index : Nat) (args : List Value) (m : Machine)

/-- What stays the same during a run. -/
structure Env where
  module : Module
  /-- The types of the imported functions, which come first in the numbering. -/
  imported : Array FuncType
  /-- The number of pages that memory cannot grow past. -/
  pageLimit : Nat

/-- The bytes that all calls of a run share. -/
def stackRoom : Nat := 512 * 1024

/-- What a call takes of the stack.  A metered call has to keep its meter too
while it waits for another. -/
def frameSize (m : Meter) : Nat := if m.isSome then 32 else 16

/-- Calls nest no deeper than the stack has room for. -/
def depthLimit (m : Meter) : Nat := stackRoom / frameSize m

/-- Take the operands for parameters of these types, the last one on top. -/
def takeArgs (count : Nat) (operands : List Value) : List Value × List Value :=
  ((operands.take count).reverse, operands.drop count)

/-- Call a function by its number. -/
def enter (env : Env) (function : Nat) (m : Machine) : Step :=
  match env.imported[function]? with
  | some type =>
    let (args, operands) := takeArgs type.params.length m.operands
    .host function args { m with operands }
  | none =>
    match env.module.funcs[function - env.imported.size]? with
    | none => .ended .trapped m
    | some f =>
      if m.depth ≥ depthLimit m.meter then .ended .trapped m
      else
        let (args, below) := takeArgs f.type.params.length m.operands
        let meter := m.meter.spend 1
        let m := { m with
          code := f.code
          operands := []
          locals := (args ++ f.locals.map Value.zero).toArray
          control := .call f.type.results.length m.locals below m.code :: m.control
          depth := m.depth + 1
          meter }
        if meter.isEmpty then .ended .outOfFuel m else .next m

/-- Start a loop's body, the first time and every time after. -/
def turn (m : Machine) : Step := if m.meter.isEmpty then .ended .outOfFuel m else .next m

def returnTo (arity : Nat) (locals : Array Value) (below : List Value) (rest : Code)
    (outer : List Control) (m : Machine) : Step :=
  .next { m with
    code := rest
    operands := m.operands.take arity ++ below
    locals
    control := outer
    depth := m.depth - 1 }

/-- Control reaches the end of a body. -/
def leave (m : Machine) : Step :=
  match m.control with
  | [] => .ended .returned m
  | .block _ below rest :: outer | .loop _ below rest :: outer =>
    .next { m with code := rest, operands := m.operands ++ below, control := outer }
  | .call arity locals below rest :: outer => returnTo arity locals below rest outer m

/-- Branch to a label, counted outwards.  The label of a function's body is a
return. -/
def branch : Nat → List Control → Machine → Step
  | 0, .block arity below rest :: outer, m =>
    .next { m with code := rest, operands := m.operands.take arity ++ below, control := outer }
  | 0, .loop body below rest :: outer, m =>
    turn { m with code := body, operands := [], control := .loop body below rest :: outer }
  | 0, .call arity locals below rest :: outer, m => returnTo arity locals below rest outer m
  | label + 1, .block _ _ _ :: outer, m | label + 1, .loop _ _ _ :: outer, m =>
    branch label outer m
  | _, _, m => .ended .trapped m

/-- Whether `count` bytes at `address` lie in a memory of `size` bytes. -/
def fits (size address count : Nat) : Bool := address + count ≤ size

def readWord (mem : ByteArray) (address count : Nat) : UInt64 :=
  ofLittleEndian ((List.range count).map fun i => Bytes.byteAt mem (address + i))

/-- What an instruction does that only looks at the operands and the memory.
There is no result if an operand has the wrong type or is missing, if an
address lies outside memory, or if the arithmetic has no result. -/
def compute? (memory : ByteArray) : Instr → List Value → Option (List Value)
  | .nop, ops => some ops
  | .drop, _ :: ops => some ops
  | .memorySize, ops => some (.i32 (memory.size / pageSize).toUInt32 :: ops)
  | .load kind offset, .i32 base :: ops =>
    let address := base.toNat + offset
    if fits memory.size address kind.byteCount then
      some (.i32 (kind.extend (readWord memory address kind.byteCount).toUInt32) :: ops)
    else none
  | .const32 w, ops => some (.i32 w :: ops)
  | .const64 w, ops => some (.i64 w :: ops)
  | .eqz32, .i32 w :: ops => some (.ofBool (w == 0) :: ops)
  | .eqz64, .i64 w :: ops => some (.ofBool (w == 0) :: ops)
  | .int32 op, .i32 b :: .i32 a :: ops => (op.apply32? a b).map (.i32 · :: ops)
  | .int64 op, .i64 b :: .i64 a :: ops => (op.apply64? a b).map (.i64 · :: ops)
  | .compare32 rel, .i32 b :: .i32 a :: ops => some (.ofBool (rel.holds a b) :: ops)
  | .wrap, .i64 w :: ops => some (.i32 w.toUInt32 :: ops)
  | .extendS, .i32 w :: ops => some (.i64 w.toInt32.toInt64.toUInt64 :: ops)
  | .extendU, .i32 w :: ops => some (.i64 w.toUInt64 :: ops)
  | .float op, .f64 b :: .f64 a :: ops => some (.f64 (op.apply a b) :: ops)
  | .bitsToFloat, .i64 w :: ops => some (.f64 w :: ops)
  | .floatToBits, .f64 w :: ops => some (.i64 w :: ops)
  | _, _ => none

/-- Bytes about to be put into memory, and the operands that are left. -/
structure Write where
  address : Nat
  data : ByteArray
  rest : List Value

/-- What an instruction writes to memory.  The whole range is checked before
anything is written. -/
def write? (memory : ByteArray) : Instr → List Value → Option Write
  | .store kind offset, value :: .i32 base :: rest =>
    match kind.bits? value with
    | some bits =>
      let address := base.toNat + offset
      if fits memory.size address kind.byteCount then
        some { address, data := ⟨(littleEndian kind.byteCount bits).toArray⟩, rest }
      else none
    | none => none
  | .memoryFill, .i32 count :: .i32 byte :: .i32 target :: rest =>
    if fits memory.size target.toNat count.toNat then
      some { address := target.toNat, data := ⟨Array.replicate count.toNat byte.toUInt8⟩, rest }
    else none
  | .memoryCopy, .i32 count :: .i32 source :: .i32 target :: rest =>
    if fits memory.size target.toNat count.toNat && fits memory.size source.toNat count.toNat then
      let data := memory.extract source.toNat (source.toNat + count.toNat)
      some { address := target.toNat, data, rest }
    else none
  | _, _ => none

/-- Grow memory by `pages`, and answer the old size in pages.  Past the limit
nothing happens and the answer is -1. -/
def grow (limit pages : Nat) (memory : ByteArray) : UInt32 × ByteArray :=
  let old := memory.size / pageSize
  if old + pages ≤ limit then (old.toUInt32, memory ++ Bytes.zeros (pages * pageSize))
  else (0xFFFFFFFF, memory)

/-- Execute one instruction.  It is no longer part of `m.code`, and its fuel is
spent. -/
def execute (env : Env) (i : Instr) (m : Machine) : Step :=
  match i, m.operands with
  | .block result body, ops =>
    .next { m with
      code := body
      operands := []
      control := .block result.toList.length ops m.code :: m.control }
  | .loop _ body, ops =>
    turn { m with code := body, operands := [], control := .loop body ops m.code :: m.control }
  | .cond result yes no, .i32 c :: ops =>
    .next { m with
      code := if c ≠ 0 then yes else no
      operands := []
      control := .block result.toList.length ops m.code :: m.control }
  | .br label, _ => branch label m.control m
  | .brIf label, .i32 c :: ops =>
    let m := { m with operands := ops }
    if c ≠ 0 then branch label m.control m else .next m
  | .call function, _ => enter env function m
  | .localGet index, ops =>
    match m.locals[index]? with
    | some v => .next { m with operands := v :: ops }
    | none => .ended .trapped m
  | .localSet index, v :: ops =>
    .next { m with operands := ops, locals := m.locals.setIfInBounds index v }
  | .globalGet index, ops =>
    match m.globals[index]? with
    | some w => .next { m with operands := .i32 w :: ops }
    | none => .ended .trapped m
  | .globalSet index, .i32 w :: ops =>
    .next { m with operands := ops, globals := m.globals.setIfInBounds index w }
  | .memoryGrow, .i32 pages :: ops =>
    let (answer, memory) := grow env.pageLimit pages.toNat m.memory
    .next { m with operands := .i32 answer :: ops, memory }
  | .store _ _, ops | .memoryFill, ops | .memoryCopy, ops =>
    match write? m.memory i ops with
    | some w =>
      .next { m with operands := w.rest, memory := Bytes.overlay m.memory w.address w.data }
    | none => .ended .trapped m
  | i, ops =>
    match compute? m.memory i ops with
    | some ops => .next { m with operands := ops }
    | none => .ended .trapped m

def step (env : Env) (m : Machine) : Step :=
  match m.code with
  | [] => leave m
  | i :: rest => execute env i { m with code := rest, meter := m.meter.spend i.cost }

/-- Go on after an imported function has answered. -/
def Machine.resume (m : Machine) (results : List Value) : Machine :=
  { m with operands := results.reverse ++ m.operands }

end Guest
end EngineHost
