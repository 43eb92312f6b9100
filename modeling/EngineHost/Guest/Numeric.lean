import EngineHost.Guest.Module
/-
What the numeric instructions compute.  Integers are words without a sign, and
the operations that need one read it off the top bit.  Floating point is kept
as bits, and whatever is not a number comes out in one form.
-/
namespace EngineHost
namespace Guest

inductive Value where
  | i32 (word : UInt32)
  | i64 (word : UInt64)
  | f32 (bits : UInt32)
  | f64 (bits : UInt64)
  deriving DecidableEq

namespace Value

def zero : ValueType → Value
  | .i32 => .i32 0
  | .i64 => .i64 0
  | .f32 => .f32 0
  | .f64 => .f64 0

def ofBool (b : Bool) : Value := .i32 (if b then 1 else 0)

end Value

namespace IntOp

/-- Division by zero has no result, nor has the one quotient that does not fit. -/
def apply32? (op : IntOp) (a b : UInt32) : Option UInt32 :=
  match op with
  | .add => some (a + b)
  | .sub => some (a - b)
  | .mul => some (a * b)
  | .divS =>
    if b = 0 ∨ (a = 0x80000000 ∧ b = 0xFFFFFFFF) then none
    else some (a.toInt32 / b.toInt32).toUInt32
  | .divU => if b = 0 then none else some (a / b)
  | .remS => if b = 0 then none else some (a.toInt32 % b.toInt32).toUInt32
  | .remU => if b = 0 then none else some (a % b)
  | .and => some (a &&& b)
  | .or => some (a ||| b)
  | .xor => some (a ^^^ b)
  | .shl => some (a <<< b)
  | .shrS => some (a.toInt32 >>> b.toInt32).toUInt32
  | .shrU => some (a >>> b)

def apply64? (op : IntOp) (a b : UInt64) : Option UInt64 :=
  match op with
  | .add => some (a + b)
  | .sub => some (a - b)
  | .mul => some (a * b)
  | .divS =>
    if b = 0 ∨ (a = 0x8000000000000000 ∧ b = 0xFFFFFFFFFFFFFFFF) then none
    else some (a.toInt64 / b.toInt64).toUInt64
  | .divU => if b = 0 then none else some (a / b)
  | .remS => if b = 0 then none else some (a.toInt64 % b.toInt64).toUInt64
  | .remU => if b = 0 then none else some (a % b)
  | .and => some (a &&& b)
  | .or => some (a ||| b)
  | .xor => some (a ^^^ b)
  | .shl => some (a <<< b)
  | .shrS => some (a.toInt64 >>> b.toInt64).toUInt64
  | .shrU => some (a >>> b)

end IntOp

def IntRel.holds (rel : IntRel) (a b : UInt32) : Bool :=
  match rel with
  | .eq => a == b
  | .ne => a != b
  | .ltS => a.toInt32 < b.toInt32
  | .ltU => a < b
  | .gtS => b.toInt32 < a.toInt32
  | .gtU => b < a
  | .leS => a.toInt32 ≤ b.toInt32
  | .leU => a ≤ b
  | .geS => b.toInt32 ≤ a.toInt32
  | .geU => b ≤ a

/-- The one form of a result that is not a number. -/
def canonicalNaN : UInt64 := 0x7FF8000000000000

def FloatOp.apply (op : FloatOp) (a b : UInt64) : UInt64 :=
  let x := Float.ofBits a
  let y := Float.ofBits b
  let r := match op with
    | .add => x + y
    | .sub => x - y
    | .mul => x * y
    | .div => x / y
  if r.isNaN then canonicalNaN else r.toBits

namespace Load

def byteCount : Load → Nat
  | .word => 4
  | .byteS | .byteU => 1
  | .halfS | .halfU => 2

/-- Spread the bytes that were read over 32 bits. -/
def extend (kind : Load) (raw : UInt32) : UInt32 :=
  match kind with
  | .word | .byteU | .halfU => raw
  | .byteS => raw.toUInt8.toInt8.toInt32.toUInt32
  | .halfS => raw.toUInt16.toInt16.toInt32.toUInt32

end Load

namespace Store

def byteCount : Store → Nat
  | .word => 4
  | .byte => 1
  | .half => 2
  | .wide => 8

/-- The bits to write, of which the low bytes are taken. -/
def bits? : Store → Value → Option UInt64
  | .wide, .i64 w => some w
  | .word, .i32 w | .byte, .i32 w | .half, .i32 w => some w.toUInt64
  | _, _ => none

end Store

/-- The lowest `count` bytes of a word, the low byte first. -/
def littleEndian : Nat → UInt64 → List UInt8
  | 0, _ => []
  | count + 1, w => w.toUInt8 :: littleEndian count (w >>> 8)

/-- The word that these bytes spell, the low byte first. -/
def ofLittleEndian : List UInt8 → UInt64
  | [] => 0
  | b :: rest => b.toUInt64 ||| (ofLittleEndian rest <<< 8)

end Guest
end EngineHost
