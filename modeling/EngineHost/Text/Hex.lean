/-
Bytes as hexadecimal text: two digits a byte, the high half first.  Writing
uses lower-case digits only.  Reading takes either case, and refuses an odd
digit and any other character.
-/
namespace EngineHost
namespace Text
namespace Hex

def digit (n : Nat) : Char :=
  if n < 10 then Char.ofNat ('0'.toNat + n) else Char.ofNat ('a'.toNat + (n - 10))

def value? (c : Char) : Option Nat :=
  if '0' ≤ c ∧ c ≤ '9' then some (c.toNat - '0'.toNat)
  else if 'a' ≤ c ∧ c ≤ 'f' then some (c.toNat - 'a'.toNat + 10)
  else if 'A' ≤ c ∧ c ≤ 'F' then some (c.toNat - 'A'.toNat + 10)
  else none

/-- Reading undoes writing, digit by digit. -/
theorem value?_digit : ∀ n, n < 16 → value? (digit n) = some n := by decide

def byteDigits (b : UInt8) : List Char := [digit (b.toNat / 16), digit (b.toNat % 16)]

def encode (bytes : ByteArray) : String := String.ofList (bytes.data.toList.flatMap byteDigits)

def readPairs : List Char → ByteArray → Option ByteArray
  | [], read => some read
  | [_], _ => none
  | high :: low :: rest, read =>
    match value? high, value? low with
    | some h, some l => readPairs rest (read.push (16 * h + l).toUInt8)
    | _, _ => none

def decode? (text : String) : Option ByteArray := readPairs text.toList .empty

theorem readPairs_byteDigits (bytes : List UInt8) (read : ByteArray) :
    readPairs (bytes.flatMap byteDigits) read = some ⟨read.data ++ bytes.toArray⟩ := by
  induction bytes generalizing read with
  | nil => simp [readPairs]
  | cons b bytes ih =>
    have hb : b.toNat < 256 := b.toNat_lt
    have hbyte : (16 * (b.toNat / 16) + b.toNat % 16).toUInt8 = b := by
      rw [Nat.div_add_mod]
      exact UInt8.ofNat_toNat
    rw [List.flatMap_cons, byteDigits, List.cons_append, List.cons_append, List.nil_append,
      readPairs, value?_digit _ (by omega), value?_digit _ (by omega)]
    dsimp only
    rw [hbyte, ih]
    simp [ByteArray.data_push]

/-- What is written is read back. -/
theorem decode?_encode (bytes : ByteArray) : decode? (encode bytes) = some bytes := by
  rw [decode?, encode, String.toList_ofList, readPairs_byteDigits]
  simp

/-- The digits of a number in base 16, without padding. -/
def number (n : Nat) : String := String.ofList (Nat.toDigits 16 n)

end Hex
end Text
end EngineHost
