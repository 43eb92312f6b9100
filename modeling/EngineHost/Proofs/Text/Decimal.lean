import EngineHost.Text.Decimal
import Mathlib.Algebra.Group.Nat.Defs
import Mathlib.Data.List.Induction
/-
Signed decimal numbers as a grammar.  A numeral is one or more digits, with at
most one sign in front.  Reading accepts the numerals and nothing else, and what
is written is a numeral.
-/
namespace EngineHost
namespace Text
namespace Decimal

/-- One digit or more, and the number that they stand for. -/
inductive Digits : List Char → Nat → Prop where
  | digit {d : Nat} (hd : d < 10) : Digits [d.digitChar] d
  | append {cs : List Char} {n d : Nat} (hcs : Digits cs n) (hd : d < 10) :
      Digits (cs ++ [d.digitChar]) (10 * n + d)

/-- Digits with at most one sign in front. -/
inductive Numeral : List Char → Int → Prop where
  | plain {cs : List Char} {n : Nat} (h : Digits cs n) : Numeral cs n
  | plus {cs : List Char} {n : Nat} (h : Digits cs n) : Numeral ('+' :: cs) n
  | minus {cs : List Char} {n : Nat} (h : Digits cs n) : Numeral ('-' :: cs) (-n)

/-! ## Digits -/

theorem isDigit_digitChar : ∀ d, d < 10 → d.digitChar.isDigit = true := by decide

theorem toNat_digitChar : ∀ d, d < 10 → d.digitChar.toNat = '0'.toNat + d := by decide

theorem digitChar_of_isDigit {c : Char} (h : c.isDigit = true) :
    c.toNat - '0'.toNat < 10 ∧ (c.toNat - '0'.toNat).digitChar = c := by
  have hrange : '0'.toNat ≤ c.toNat ∧ c.toNat ≤ '9'.toNat := by
    simpa [Char.isDigit, UInt32.le_iff_toNat_le] using h
  have hzero : '0'.toNat = 48 := rfl
  have hnine : '9'.toNat = 57 := rfl
  have hlt : c.toNat - '0'.toNat < 10 := by omega
  refine ⟨hlt, Char.toNat_inj.1 ?_⟩
  rw [toNat_digitChar _ hlt]
  omega

namespace Digits

variable {cs : List Char} {n : Nat}

theorem ne_nil (h : Digits cs n) : cs ≠ [] := by
  cases h with
  | digit => exact List.cons_ne_nil _ _
  | append => exact List.append_ne_nil_of_right_ne_nil _ (List.cons_ne_nil _ _)

theorem isDigit (h : Digits cs n) : ∀ c ∈ cs, c.isDigit = true := by
  induction h with
  | digit hd => exact List.forall_mem_singleton.2 (isDigit_digitChar _ hd)
  | append _ hd ih =>
    exact List.forall_mem_append.2 ⟨ih, List.forall_mem_singleton.2 (isDigit_digitChar _ hd)⟩

theorem value (h : Digits cs n) : Nat.ofDigitChars 10 cs 0 = n := by
  induction h with
  | digit hd => rw [Nat.ofDigitChars_cons, Nat.ofDigitChars_nil, toNat_digitChar _ hd]; omega
  | append _ hd ih =>
    rw [Nat.ofDigitChars_append, ih, Nat.ofDigitChars_cons, Nat.ofDigitChars_nil,
      toNat_digitChar _ hd]
    omega

/-- So many digits reach so far. -/
theorem lt (h : Digits cs n) : n < 10 ^ cs.length := by
  induction h with
  | digit hd => simpa using hd
  | append _ hd ih =>
    rw [List.length_append, List.length_singleton, Nat.pow_succ]
    omega

theorem of_isDigit (hne : cs ≠ []) (hdigits : ∀ c ∈ cs, c.isDigit = true) :
    Digits cs (Nat.ofDigitChars 10 cs 0) := by
  induction cs using List.reverseRecOn with
  | nil => exact absurd rfl hne
  | append_singleton cs c ih =>
    rw [List.forall_mem_append, List.forall_mem_singleton] at hdigits
    obtain ⟨hlt, hc⟩ := digitChar_of_isDigit hdigits.2
    rw [Nat.ofDigitChars_append, Nat.ofDigitChars_cons, Nat.ofDigitChars_nil]
    nth_rewrite 1 [← hc]
    cases cs with
    | nil => simpa [Nat.ofDigitChars_nil] using Digits.digit hlt
    | cons first rest => exact .append (ih (List.cons_ne_nil _ _) hdigits.1) hlt

theorem toDigits (n : Nat) : Digits (Nat.toDigits 10 n) n := by
  have hdigits : ∀ c ∈ Nat.toDigits 10 n, c.isDigit = true :=
    fun c hc => Nat.isDigit_of_mem_toDigits (by decide) (by decide) hc
  have h := of_isDigit Nat.toDigits_ne_nil hdigits
  rwa [Nat.ofDigitChars_ten_toDigits] at h

end Digits

theorem digits?_eq_some_iff {cs : List Char} {n : Nat} : digits? cs = some n ↔ Digits cs n := by
  unfold digits?
  rw [Option.ite_none_right_eq_some, List.all_eq_true, Option.some.injEq]
  constructor
  · intro h
    obtain ⟨⟨hne, hdigits⟩, rfl⟩ := h
    exact .of_isDigit hne hdigits
  · exact fun h => ⟨⟨h.ne_nil, h.isDigit⟩, h.value⟩

/-! ## Numerals -/

theorem signed?_eq_some_iff {cs : List Char} {v : Int} : signed? cs = some v ↔ Numeral cs v := by
  constructor
  · intro h
    unfold signed? at h
    split at h
    all_goals
      obtain ⟨_, hread, rfl⟩ := Option.map_eq_some_iff.1 h
      obtain ⟨n, hn, hcast⟩ := Option.bind_eq_some_iff.1 hread
      cases hcast
      rw [digits?_eq_some_iff] at hn
    case h_1 => exact .minus hn
    case h_2 => exact .plus hn
    case h_3 => exact .plain hn
  · intro h
    cases h with
    | minus h => rw [signed?, digits?_eq_some_iff.2 h]; rfl
    | plus h => rw [signed?, digits?_eq_some_iff.2 h]; rfl
    | plain h =>
      -- The first character is a digit, and so it is no sign.
      have hsign (c : Char) (rest : List Char) (hcs : cs = c :: rest) : c.isDigit = true :=
        h.isDigit c (hcs ▸ List.mem_cons_self)
      unfold signed?
      split
      case h_1 => exact absurd (hsign _ _ rfl) (by decide)
      case h_2 => exact absurd (hsign _ _ rfl) (by decide)
      case h_3 => rw [digits?_eq_some_iff.2 h]; rfl

theorem toList_write (v : Int) : (write v).toList =
    if v < 0 then '-' :: Nat.toDigits 10 v.natAbs else Nat.toDigits 10 v.natAbs := by
  have htext : (toString v.natAbs).toList = Nat.toDigits 10 v.natAbs := by
    rw [Nat.toString_eq_ofList_toDigits, String.toList_ofList]
  unfold write
  split
  case isTrue => rw [String.toList_append, htext]; rfl
  case isFalse => exact htext

namespace Numeral

variable {cs : List Char} {v : Int}

theorem unique {w : Int} (h : Numeral cs v) (h' : Numeral cs w) : v = w := by
  rw [← signed?_eq_some_iff] at h h'
  exact Option.some.inj (h.symm.trans h')

theorem natAbs_lt (h : Numeral cs v) : v.natAbs < 10 ^ cs.length := by
  cases h with
  | plain h => simpa using h.lt
  | plus h | minus h =>
    have hlt := h.lt
    rw [List.length_cons, Nat.pow_succ]
    omega

theorem ascii (h : Numeral cs v) : ∀ c ∈ cs, c.toNat < 128 := by
  have hdigit (c : Char) (hc : c.isDigit = true) : c.toNat < 128 := by
    obtain ⟨hlt, -⟩ := digitChar_of_isDigit hc
    have hzero : '0'.toNat = 48 := rfl
    omega
  cases h with
  | plain h => exact fun c hc => hdigit c (h.isDigit c hc)
  | plus h | minus h =>
    exact List.forall_mem_cons.2 ⟨by decide, fun c hc => hdigit c (h.isDigit c hc)⟩

/-- A numeral takes one byte for each character. -/
theorem size_toUTF8 {text : String} (h : Numeral text.toList v) :
    text.toUTF8.size = text.length := by
  have hsize (cs : List Char) (hcs : ∀ c ∈ cs, c.toNat < 128) : cs.utf8Encode.size = cs.length := by
    induction cs with
    | nil => rfl
    | cons c rest ih =>
      obtain ⟨hc, hrest⟩ := List.forall_mem_cons.1 hcs
      have hone : (String.utf8EncodeChar c).length = 1 := by
        rw [String.length_utf8EncodeChar, Char.utf8Size_eq_one_iff]
        exact UInt32.le_iff_toNat_le.2 (Nat.le_of_lt_succ hc)
      rw [List.utf8Encode_cons, ByteArray.size_append, ih hrest, List.utf8Encode_singleton,
        List.size_toByteArray, hone, List.length_cons, Nat.add_comm]
  have htext := hsize text.toList h.ascii
  rwa [← String.toByteArray_ofList, String.ofList_toList, String.length_toList] at htext

theorem write (v : Int) : Numeral (Decimal.write v).toList v := by
  rw [toList_write]
  split
  case isTrue h =>
    have hv : v = -(v.natAbs : Int) := by omega
    nth_rewrite 2 [hv]
    exact .minus (.toDigits _)
  case isFalse h =>
    have hv : v = (v.natAbs : Int) := by omega
    nth_rewrite 2 [hv]
    exact .plain (.toDigits _)

end Numeral

/-- Reading gives a code if the text is a numeral of it. -/
theorem int64?_eq_some_iff {text : String} {code : Int64} :
    int64? text = some code ↔ Numeral text.toList code.toInt := by
  rw [← signed?_eq_some_iff]
  unfold int64?
  cases signed? text.toList with
  | none => simp
  | some v =>
    dsimp only
    rw [Option.ite_none_right_eq_some, Option.some.injEq, Option.some.injEq]
    constructor
    · intro h
      obtain ⟨hrange, rfl⟩ := h
      exact (Int64.toInt_ofInt_of_le hrange.1 (Int.lt_add_one_of_le hrange.2)).symm
    · intro h
      subst h
      exact ⟨⟨code.minValue_le_toInt, code.toInt_le⟩, Int64.ofInt_toInt code⟩

end Decimal
end Text
end EngineHost
