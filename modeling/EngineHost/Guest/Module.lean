/-
Guest modules: the part of WebAssembly that guests are written in.  A module
declares imports, at most one memory, globals, functions and exports.  Code is
structured, so a branch names a label by how many blocks out it is.
-/
namespace EngineHost
namespace Guest

inductive ValueType where
  | i32
  | i64
  | f32
  | f64
  deriving DecidableEq

structure FuncType where
  params : List ValueType := []
  results : List ValueType := []
  deriving DecidableEq

/-- Arithmetic on two integers of one width. -/
inductive IntOp where
  | add | sub | mul | divS | divU | remS | remU
  | and | or | xor | shl | shrS | shrU

inductive IntRel where
  | eq | ne | ltS | ltU | gtS | gtU | leS | leU | geS | geU

inductive FloatOp where
  | add | sub | mul | div

/-- How many bytes a load reads, and how they fill 32 bits. -/
inductive Load where
  | word
  | byteS | byteU
  | halfS | halfU

/-- How many bytes a store writes, and from a value of which width. -/
inductive Store where
  | word
  | byte
  | half
  | wide

inductive Instr where
  | unreachable
  | nop
  | drop
  | block (result : Option ValueType) (body : List Instr)
  | loop (result : Option ValueType) (body : List Instr)
  | cond (result : Option ValueType) (yes no : List Instr)
  | br (label : Nat)
  | brIf (label : Nat)
  | call (function : Nat)
  | localGet (index : Nat)
  | localSet (index : Nat)
  | globalGet (index : Nat)
  | globalSet (index : Nat)
  | memorySize
  | memoryGrow
  | memoryFill
  | memoryCopy
  | load (kind : Load) (offset : Nat)
  | store (kind : Store) (offset : Nat)
  | const32 (value : UInt32)
  | const64 (value : UInt64)
  | eqz32
  | eqz64
  | int32 (op : IntOp)
  | int64 (op : IntOp)
  | compare32 (rel : IntRel)
  | wrap
  | extendS
  | extendU
  | float (op : FloatOp)
  | bitsToFloat
  | floatToBits
  /-- An instruction of a feature that guests may not use. -/
  | disabled (name : String)

abbrev Code := List Instr

inductive ImportKind where
  | func (type : FuncType)
  | memory
  | global
  | table
  deriving DecidableEq

structure Import where
  space : String
  name : String
  kind : ImportKind
  deriving DecidableEq

/-- Sizes in pages of 65536 bytes. -/
structure MemoryType where
  min : Nat
  max : Option Nat := none
  shared : Bool := false

/-- Bytes put into memory at instantiation. -/
structure Segment where
  offset : UInt32
  data : ByteArray

structure Func where
  type : FuncType := {}
  locals : List ValueType := []
  code : Code := []

inductive ExportKind where
  | func
  | memory
  | global
  | table
  deriving DecidableEq

structure Export where
  name : String
  kind : ExportKind
  index : Nat

structure Module where
  imports : List Import := []
  memories : List MemoryType := []
  segments : List Segment := []
  /-- Initial values of the guest's own globals, which are mutable and narrow. -/
  globals : List UInt32 := []
  hasTable : Bool := false
  funcs : Array Func := #[]
  exports : List Export := []
  start : Option Nat := none

def pageSize : Nat := 65536

/-- No memory can have more pages than its addresses reach. -/
def maxPages : Nat := 65536

namespace ImportKind

def func? : ImportKind → Option FuncType
  | .func type => some type
  | _ => none

end ImportKind

namespace Module

def importedFuncs (m : Module) : List FuncType := m.imports.filterMap (·.kind.func?)

/-- How many imports are of a kind other than functions. -/
def importedCount (m : Module) (kind : ImportKind) : Nat :=
  (m.imports.filter (·.kind = kind)).length

/-- Imported functions come first in the numbering of functions. -/
def funcType? (m : Module) (index : Nat) : Option FuncType :=
  let imported := m.importedFuncs
  match imported[index]? with
  | some type => some type
  | none => (m.funcs[index - imported.length]?).map (·.type)

def export? (m : Module) (name : String) : Option Export :=
  m.exports.find? (·.name = name)

end Module

end Guest
end EngineHost
