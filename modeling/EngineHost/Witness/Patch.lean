import EngineHost.Bytes.Overlay
import EngineHost.Fault
/-
Ranges of a memory and recorded replacements of them.  A range is checked
against the size before anything is read or written, so a refused write
changes nothing, and no range is ever cut to fit.
-/
namespace EngineHost

/-- The bounds of the range of `length` bytes at `offset`, in a memory of `size`
bytes. -/
def rangeIn (size : Nat) (offset length : UInt32) : Except EngineError (Nat × Nat) :=
  if offset.toNat + length.toNat ≤ size then
    .ok (offset.toNat, offset.toNat + length.toNat)
  else .error (.memoryOutOfBounds offset length size)

theorem rangeIn_eq_ok {size : Nat} {offset length : UInt32} {r : Nat × Nat} :
    rangeIn size offset length = .ok r ↔
      offset.toNat + length.toNat ≤ size ∧ r = (offset.toNat, offset.toNat + length.toNat) := by
  unfold rangeIn
  split
  case isTrue h => simp [h, eq_comm]
  case isFalse h => simp [h]

/-- Write `data` at `offset`.  Data too long for a 32-bit length fits nowhere. -/
def writeAt (mem : ByteArray) (offset : UInt32) (data : ByteArray) :
    Except EngineError ByteArray :=
  if data.size < UInt32.size then do
    let (start, _) ← rangeIn mem.size offset data.size.toUInt32
    return Bytes.overlay mem start data
  else .error (.memoryOutOfBounds offset 0xFFFFFFFF mem.size)

/-- Read the range of `length` bytes at `offset`. -/
def readAt (mem : ByteArray) (offset length : UInt32) : Except EngineError ByteArray := do
  let (start, stop) ← rangeIn mem.size offset length
  return mem.extract start stop

/-- The length a caller states has to be the length of the data it gives. -/
def checkLength (length : UInt32) (data : ByteArray) : Except EngineError Unit :=
  if length.toNat = data.size then .ok ()
  else .error (.patchLengthMismatch length data.size)

/-- A replacement of a range of memory. -/
structure Patch where
  offset : UInt32
  data : ByteArray
  deriving DecidableEq

namespace Patch

def make (offset length : UInt32) (data : ByteArray) : Except EngineError Patch := do
  checkLength length data
  return { offset, data }

def length (p : Patch) : UInt32 := p.data.size.toUInt32

def applyTo (p : Patch) (mem : ByteArray) : Except EngineError ByteArray :=
  writeAt mem p.offset p.data

end Patch

end EngineHost
