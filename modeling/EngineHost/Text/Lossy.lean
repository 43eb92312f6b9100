/-
Bytes read as text when they need not be text.  Well-formed UTF-8 sequences
are decoded, and every maximal piece that begins a sequence but does not
complete it becomes one replacement character.  A maximal piece is the longest
run that some well-formed sequence starts with, or a single byte if none does.
-/
namespace EngineHost
namespace Text
namespace Lossy

def replacement : Char := '\uFFFD'

/-- What a first byte promises: how many bytes follow it, the range of the
first of those, and the bits that the first byte itself contributes. -/
structure Lead where
  following : Nat
  low : UInt8
  high : UInt8
  bits : Nat

/-- The ranges leave out overlong spellings, surrogates, and values above the
last code point, all of which show in the first two bytes. -/
def lead? (b : UInt8) : Option Lead :=
  let n := b.toNat
  if n < 0x80 then some ⟨0, 0x80, 0xBF, n⟩
  else if n < 0xC2 then none
  else if n < 0xE0 then some ⟨1, 0x80, 0xBF, n % 32⟩
  else if n = 0xE0 then some ⟨2, 0xA0, 0xBF, 0⟩
  else if n = 0xED then some ⟨2, 0x80, 0x9F, 13⟩
  else if n < 0xF0 then some ⟨2, 0x80, 0xBF, n % 16⟩
  else if n = 0xF0 then some ⟨3, 0x90, 0xBF, 0⟩
  else if n < 0xF4 then some ⟨3, 0x80, 0xBF, n % 8⟩
  else if n = 0xF4 then some ⟨3, 0x80, 0x8F, 4⟩
  else none

/-- The bytes that continue a sequence, at most `count` of them.  Only the
first is held to its own range. -/
def continuation : Nat → UInt8 → UInt8 → List UInt8 → List UInt8
  | 0, _, _, _ => []
  | _ + 1, _, _, [] => []
  | count + 1, low, high, b :: rest =>
    if low ≤ b ∧ b ≤ high then b :: continuation count 0x80 0xBF rest else []

def codePoint (bits : Nat) (tail : List UInt8) : Char :=
  Char.ofNat (tail.foldl (fun v b => v * 64 + b.toNat % 64) bits)

def chars : List UInt8 → List Char
  | [] => []
  | b :: rest =>
    match lead? b with
    | none => replacement :: chars rest
    | some lead =>
      let tail := continuation lead.following lead.low lead.high rest
      let c := if tail.length = lead.following then codePoint lead.bits tail else replacement
      c :: chars (rest.drop tail.length)
termination_by bytes => bytes.length
decreasing_by
  · simp
  · simp only [List.length_drop, List.length_cons]; omega

def text (bytes : ByteArray) : String := String.ofList (chars bytes.data.toList)

end Lossy
end Text
end EngineHost
