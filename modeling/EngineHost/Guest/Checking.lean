import EngineHost.Guest.Module
/-
Which modules are well formed.  Code is checked by keeping the types of the
operands that a block has pushed.  After an instruction that never falls
through, operands of any type may be assumed, since the code behind it never
runs.
-/
namespace EngineHost
namespace Guest

/-- What is wrong with a module that does not compile. -/
inductive Flaw where
  | memories
  | memoryLimits
  | segments
  | exports
  | start
  | body (function : Nat)
  | notAModule
  deriving DecidableEq

namespace Flaw

def message : Flaw → String
  | .memories => "a module has at most one memory, and it is not shared"
  | .memoryLimits => "memory limits out of range"
  | .segments => "data segment without a memory"
  | .exports => "export of something unknown, or of one name twice"
  | .start => "the start function must exist and have type () -> ()"
  | .body function => "invalid code in function " ++ toString function
  | .notAModule => "not a module"

end Flaw

/-- What the code of one function can refer to. -/
structure Scope where
  module : Module
  imported : List FuncType
  locals : List ValueType
  hasMemory : Bool

namespace Scope

def funcType? (s : Scope) (index : Nat) : Option FuncType :=
  match s.imported[index]? with
  | some type => some type
  | none => (s.module.funcs[index - s.imported.length]?).map (·.type)

/-- Imported globals come first, and they cannot be written. -/
def globalWritable? (s : Scope) (index : Nat) : Option Bool :=
  let imported := s.module.importedCount .global
  if index < imported then some false
  else if index < imported + s.module.globals.length then some true
  else none

end Scope

/-- The operands that a block has pushed, the last one first.  An open stack
has operands of every type below them. -/
structure Stack where
  types : List ValueType := []
  isOpen : Bool := false

namespace Stack

def push (s : Stack) (t : ValueType) : Stack := { s with types := t :: s.types }

def pop? (s : Stack) (t : ValueType) : Option Stack :=
  match s.types with
  | top :: rest => if top = t then some { s with types := rest } else none
  | [] => if s.isOpen then some s else none

def popAny? (s : Stack) : Option Stack :=
  match s.types with
  | _ :: rest => some { s with types := rest }
  | [] => if s.isOpen then some s else none

/-- Pop types that were pushed in the order given. -/
def popAll? (s : Stack) (ts : List ValueType) : Option Stack :=
  ts.reverse.foldlM pop? s

def pushAll (s : Stack) (ts : List ValueType) : Stack := ts.foldl push s

/-- The stack behind an instruction that never falls through. -/
def opened : Stack := { isOpen := true }

/-- Whether a block can end here with these results and nothing else. -/
def endsWith (s : Stack) (results : List ValueType) : Bool :=
  match s.popAll? results with
  | some rest => rest.types.isEmpty
  | none => false

/-- Take operands and put results. -/
def applyType? (s : Stack) (params results : List ValueType) : Option Stack :=
  (s.popAll? params).map (·.pushAll results)

end Stack

/-- The operands a store takes: an address and a value. -/
def Store.operands : Store → List ValueType
  | .wide => [.i32, .i64]
  | _ => [.i32, .i32]

/-- The types that a label's target takes with it. -/
abbrev Labels := List (List ValueType)

mutual
def checkInstr (scope : Scope) (labels : Labels) (s : Stack) : Instr → Option Stack
  | .unreachable => some .opened
  | .nop => some s
  | .drop => s.popAny?
  | .block result body => do
    let inner ← checkCode scope (result.toList :: labels) {} body
    if inner.endsWith result.toList then some (s.pushAll result.toList) else none
  | .loop result body => do
    -- A branch to a loop starts it again, so it takes no results with it.
    let inner ← checkCode scope ([] :: labels) {} body
    if inner.endsWith result.toList then some (s.pushAll result.toList) else none
  | .cond result yes no => do
    let s ← s.pop? .i32
    let innerYes ← checkCode scope (result.toList :: labels) {} yes
    let innerNo ← checkCode scope (result.toList :: labels) {} no
    if innerYes.endsWith result.toList && innerNo.endsWith result.toList then
      some (s.pushAll result.toList)
    else none
  | .br label => do
    let target ← labels[label]?
    let _ ← s.popAll? target
    some .opened
  | .brIf label => do
    let s ← s.pop? .i32
    let target ← labels[label]?
    s.applyType? target target
  | .call function => do
    let type ← scope.funcType? function
    s.applyType? type.params type.results
  | .localGet index => do
    let t ← scope.locals[index]?
    some (s.push t)
  | .localSet index => do
    let t ← scope.locals[index]?
    s.pop? t
  | .globalGet index => do
    let _ ← scope.globalWritable? index
    some (s.push .i32)
  | .globalSet index => do
    let writable ← scope.globalWritable? index
    if writable then s.pop? .i32 else none
  | .memorySize => if scope.hasMemory then some (s.push .i32) else none
  | .memoryGrow => if scope.hasMemory then s.applyType? [.i32] [.i32] else none
  | .memoryFill | .memoryCopy =>
    if scope.hasMemory then s.applyType? [.i32, .i32, .i32] [] else none
  | .load _ _ => if scope.hasMemory then s.applyType? [.i32] [.i32] else none
  | .store kind _ =>
    if scope.hasMemory then s.applyType? kind.operands [] else none
  | .const32 _ => some (s.push .i32)
  | .const64 _ => some (s.push .i64)
  | .eqz32 => s.applyType? [.i32] [.i32]
  | .eqz64 => s.applyType? [.i64] [.i32]
  | .int32 _ => s.applyType? [.i32, .i32] [.i32]
  | .int64 _ => s.applyType? [.i64, .i64] [.i64]
  | .compare32 _ => s.applyType? [.i32, .i32] [.i32]
  | .wrap => s.applyType? [.i64] [.i32]
  | .extendS | .extendU => s.applyType? [.i32] [.i64]
  | .float _ => s.applyType? [.f64, .f64] [.f64]
  | .bitsToFloat => s.applyType? [.i64] [.f64]
  | .floatToBits => s.applyType? [.f64] [.i64]
  | .disabled _ => none

def checkCode (scope : Scope) (labels : Labels) (s : Stack) : List Instr → Option Stack
  | [] => some s
  | i :: rest => do
    let s ← checkInstr scope labels s i
    checkCode scope labels s rest
end

namespace Module

def memoryCount (m : Module) : Nat := m.importedCount .memory + m.memories.length

/-- A body starts with no operands and ends with exactly its results. -/
def bodyChecks (m : Module) (imported : List FuncType) (f : Func) : Bool :=
  let scope : Scope :=
    { module := m, imported, locals := f.type.params ++ f.locals, hasMemory := m.memoryCount ≠ 0 }
  match checkCode scope [f.type.results] {} f.code with
  | some s => s.endsWith f.type.results
  | none => false

def memoryLimitsFit (t : MemoryType) : Bool :=
  t.min ≤ maxPages && match t.max with
    | some max => t.min ≤ max && max ≤ maxPages
    | none => true

def exportExists (m : Module) (e : Export) : Bool :=
  match e.kind with
  | .func => (m.funcType? e.index).isSome
  | .memory => e.index < m.memoryCount
  | .global => e.index < m.importedCount .global + m.globals.length
  | .table => e.index < m.importedCount .table + (if m.hasTable then 1 else 0)

/-- The first thing wrong with a module, if there is one. -/
def flaw? (m : Module) : Option Flaw :=
  let imported := m.importedFuncs
  if m.memoryCount > 1 ∨ m.memories.any (·.shared) then some .memories
  else if ¬ m.memories.all memoryLimitsFit then some .memoryLimits
  else if m.memoryCount = 0 ∧ ¬ m.segments.isEmpty then some .segments
  else if ¬ m.exports.all m.exportExists ∨ ¬ (m.exports.map (·.name)).Nodup then some .exports
  else if m.start.any fun f => m.funcType? f ≠ some {} then some .start
  else (m.funcs.findIdx? fun f => !m.bodyChecks imported f).map .body

end Module

/-- What is installed on an engine.  The encoding of modules is not part of this
library.  An engine compiles the bytes of a module or hands them back, and what
comes of compiling depends on the module that they encode and on nothing else, so
they stand here as `described`.  What stands as `bytes` encodes no module, or is
one of the spellings of the empty module below. -/
inductive Binary where
  /-- Bytes as they came. -/
  | bytes (raw : ByteArray)
  /-- The bytes of this module. -/
  | described (module : Module)

namespace Binary

/-- The two spellings of the module that declares nothing: the eight bytes of
its binary header, and its text `(module)`. -/
def emptySpellings : List (List UInt8) :=
  [[0, 97, 115, 109, 1, 0, 0, 0], [40, 109, 111, 100, 117, 108, 101, 41]]

/-- The module that was encoded, if it is well formed. -/
def compile : Binary → Except Flaw Module
  | .bytes raw =>
    if emptySpellings.contains raw.data.toList then .ok {} else .error .notAModule
  | .described m =>
    match m.flaw? with
    | some flaw => .error flaw
    | none => .ok m

end Binary

end Guest
end EngineHost
