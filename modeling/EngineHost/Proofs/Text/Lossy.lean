import EngineHost.Text.Lossy
/-
Lossy reading of what is text already.  The first byte of a character tells how
many bytes follow and what bits it has itself, and it leaves out none that
encodes a character.  So nothing of a text is replaced.
-/
namespace EngineHost
namespace Text
namespace Lossy

/-- A byte in the middle of a character. -/
def IsMiddle (b : UInt8) : Prop := 0x80 ≤ b ∧ b ≤ 0xBF

/-- The bytes that a first byte has promised. -/
def Lead.Promises (l : Lead) : List UInt8 → Prop
  | [] => l.following = 0
  | b :: bs => l.following = bs.length + 1 ∧ l.low ≤ b ∧ b ≤ l.high ∧ ∀ b ∈ bs, IsMiddle b

theorem continuation_middle {bs : List UInt8} (h : ∀ b ∈ bs, IsMiddle b) (rest : List UInt8) :
    continuation bs.length 0x80 0xBF (bs ++ rest) = bs := by
  induction bs with
  | nil => cases rest <;> rfl
  | cons b bs ih =>
    obtain ⟨hb, hbs⟩ := List.forall_mem_cons.1 h
    rw [List.cons_append, List.length_cons, continuation, if_pos ⟨hb.1, hb.2⟩, ih hbs]

theorem Lead.Promises.continuation {l : Lead} {bs : List UInt8} (h : l.Promises bs)
    (rest : List UInt8) :
    continuation l.following l.low l.high (bs ++ rest) = bs ∧ l.following = bs.length := by
  cases bs with
  | nil =>
    have hnone : l.following = 0 := h
    rw [hnone]
    exact ⟨rfl, rfl⟩
  | cons b bs =>
    obtain ⟨hlength, hlow, hhigh, hmiddle⟩ := h
    rw [hlength, List.cons_append, Lossy.continuation, if_pos ⟨hlow, hhigh⟩,
      continuation_middle hmiddle]
    exact ⟨rfl, rfl⟩

/-- A promise that is kept makes a character. -/
theorem chars_append {b : UInt8} {l : Lead} {bs : List UInt8} (hlead : lead? b = some l)
    (h : l.Promises bs) (rest : List UInt8) :
    chars (b :: (bs ++ rest)) = codePoint l.bits bs :: chars rest := by
  obtain ⟨hcontinuation, hlength⟩ := h.continuation rest
  rw [chars, hlead]
  dsimp only
  rw [hcontinuation, if_pos hlength.symm, List.drop_left]

/-! ## Characters in bytes -/

theorem toNat_ofNat {n : Nat} (h : n < 256) : (UInt8.ofNat n).toNat = n :=
  UInt8.toNat_ofNat_of_lt' h

theorem le_ofNat {a : UInt8} {n : Nat} (hn : n < 256) (h : a.toNat ≤ n) : a ≤ UInt8.ofNat n := by
  rwa [UInt8.le_iff_toNat_le, toNat_ofNat hn]

theorem ofNat_le {a : UInt8} {n : Nat} (hn : n < 256) (h : n ≤ a.toNat) : UInt8.ofNat n ≤ a := by
  rwa [UInt8.le_iff_toNat_le, toNat_ofNat hn]

theorem isMiddle_ofNat (n : Nat) : IsMiddle (UInt8.ofNat (n % 64 + 128)) := by
  have hlow : (0x80 : UInt8).toNat = 128 := rfl
  have hhigh : (0xBF : UInt8).toNat = 191 := rfl
  exact ⟨le_ofNat (by omega) (by omega), ofNat_le (by omega) (by omega)⟩

section

variable {n : Nat}

theorem lead?_one (h : n < 0x80) : lead? (UInt8.ofNat n) = some ⟨0, 0x80, 0xBF, n⟩ := by
  unfold lead?
  rw [toNat_ofNat (by omega)]
  exact if_pos h

theorem lead?_two (hlow : 0xC2 ≤ n) (hhigh : n < 0xE0) :
    lead? (UInt8.ofNat n) = some ⟨1, 0x80, 0xBF, n % 32⟩ := by
  unfold lead?
  rw [toNat_ofNat (by omega)]
  dsimp only
  rw [if_neg (by omega), if_neg (by omega), if_pos hhigh]

theorem lead?_three (hlow : 0xE0 ≤ n) (hhigh : n < 0xF0) :
    lead? (UInt8.ofNat n) = some
      ⟨2, if n = 0xE0 then 0xA0 else 0x80, if n = 0xED then 0x9F else 0xBF, n % 16⟩ := by
  by_cases hfirst : n = 0xE0
  case pos => subst hfirst; rfl
  by_cases hlast : n = 0xED
  case pos => subst hlast; rfl
  unfold lead?
  rw [toNat_ofNat (by omega)]
  dsimp only
  rw [if_neg (by omega), if_neg (by omega), if_neg (by omega)]
  simp only [if_neg hfirst, if_neg hlast, if_pos hhigh]

theorem lead?_four (hlow : 0xF0 ≤ n) (hhigh : n ≤ 0xF4) :
    lead? (UInt8.ofNat n) = some
      ⟨3, if n = 0xF0 then 0x90 else 0x80, if n = 0xF4 then 0x8F else 0xBF, n % 8⟩ := by
  obtain rfl | rfl | rfl | rfl | rfl : n = 0xF0 ∨ n = 0xF1 ∨ n = 0xF2 ∨ n = 0xF3 ∨ n = 0xF4 := by
    omega
  all_goals rfl

end

section

variable {v : Nat} (rest : List UInt8)

theorem chars_one (h : v < 0x80) :
    chars (UInt8.ofNat v :: rest) = Char.ofNat v :: chars rest := by
  have hkept : Lead.Promises ⟨0, 0x80, 0xBF, v⟩ [] := rfl
  exact chars_append (lead?_one h) hkept rest

theorem chars_two (hlow : 0x80 ≤ v) (hhigh : v < 0x800) :
    chars (UInt8.ofNat (v / 64 % 32 + 192) :: UInt8.ofNat (v % 64 + 128) :: rest) =
      Char.ofNat v :: chars rest := by
  have hkept : Lead.Promises ⟨1, 0x80, 0xBF, (v / 64 % 32 + 192) % 32⟩
      [UInt8.ofNat (v % 64 + 128)] :=
    ⟨rfl, (isMiddle_ofNat v).1, (isMiddle_ofNat v).2, nofun⟩
  have hchars := chars_append (lead?_two (by omega) (by omega)) hkept rest
  refine hchars.trans (congrArg (· :: _) ?_)
  rw [codePoint, List.foldl_cons, List.foldl_nil, toNat_ofNat (by omega)]
  congr 1
  dsimp only
  omega

/-- The second byte tells that the spelling is not too long and that the
character is no surrogate. -/
theorem chars_three (hlow : 0x800 ≤ v) (hhigh : v < 0xD800 ∨ 0xDFFF < v ∧ v < 0x10000) :
    chars (UInt8.ofNat (v / 4096 % 16 + 224) :: UInt8.ofNat (v / 64 % 64 + 128) ::
      UInt8.ofNat (v % 64 + 128) :: rest) = Char.ofNat v :: chars rest := by
  have hfirst : (if v / 4096 % 16 + 224 = 0xE0 then 0xA0 else 0x80) ≤
      UInt8.ofNat (v / 64 % 64 + 128) := by
    split
    case isTrue => exact le_ofNat (by omega) (show 160 ≤ _ by omega)
    case isFalse => exact (isMiddle_ofNat _).1
  have hlast : UInt8.ofNat (v / 64 % 64 + 128) ≤
      if v / 4096 % 16 + 224 = 0xED then 0x9F else 0xBF := by
    split
    case isTrue => exact ofNat_le (by omega) (show _ ≤ 159 by omega)
    case isFalse => exact (isMiddle_ofNat _).2
  have hkept : Lead.Promises ⟨2, if v / 4096 % 16 + 224 = 0xE0 then 0xA0 else 0x80,
      if v / 4096 % 16 + 224 = 0xED then 0x9F else 0xBF, (v / 4096 % 16 + 224) % 16⟩
      [UInt8.ofNat (v / 64 % 64 + 128), UInt8.ofNat (v % 64 + 128)] :=
    ⟨rfl, hfirst, hlast, List.forall_mem_singleton.2 (isMiddle_ofNat v)⟩
  have hchars := chars_append (lead?_three (by omega) (by omega)) hkept rest
  refine hchars.trans (congrArg (· :: _) ?_)
  rw [codePoint, List.foldl_cons, List.foldl_cons, List.foldl_nil, toNat_ofNat (by omega),
    toNat_ofNat (by omega)]
  congr 1
  dsimp only
  omega

theorem chars_four (hlow : 0x10000 ≤ v) (hhigh : v < 0x110000) :
    chars (UInt8.ofNat (v / 262144 % 8 + 240) :: UInt8.ofNat (v / 4096 % 64 + 128) ::
      UInt8.ofNat (v / 64 % 64 + 128) :: UInt8.ofNat (v % 64 + 128) :: rest) =
      Char.ofNat v :: chars rest := by
  have hfirst : (if v / 262144 % 8 + 240 = 0xF0 then 0x90 else 0x80) ≤
      UInt8.ofNat (v / 4096 % 64 + 128) := by
    split
    case isTrue => exact le_ofNat (by omega) (show 144 ≤ _ by omega)
    case isFalse => exact (isMiddle_ofNat _).1
  have hlast : UInt8.ofNat (v / 4096 % 64 + 128) ≤
      if v / 262144 % 8 + 240 = 0xF4 then 0x8F else 0xBF := by
    split
    case isTrue => exact ofNat_le (by omega) (show _ ≤ 143 by omega)
    case isFalse => exact (isMiddle_ofNat _).2
  have hkept : Lead.Promises ⟨3, if v / 262144 % 8 + 240 = 0xF0 then 0x90 else 0x80,
      if v / 262144 % 8 + 240 = 0xF4 then 0x8F else 0xBF, (v / 262144 % 8 + 240) % 8⟩
      [UInt8.ofNat (v / 4096 % 64 + 128), UInt8.ofNat (v / 64 % 64 + 128),
        UInt8.ofNat (v % 64 + 128)] :=
    ⟨rfl, hfirst, hlast, List.forall_mem_cons.2
      ⟨isMiddle_ofNat _, List.forall_mem_singleton.2 (isMiddle_ofNat v)⟩⟩
  have hchars := chars_append (lead?_four (by omega) (by omega)) hkept rest
  refine hchars.trans (congrArg (· :: _) ?_)
  rw [codePoint, List.foldl_cons, List.foldl_cons, List.foldl_cons, List.foldl_nil,
    toNat_ofNat (by omega), toNat_ofNat (by omega), toNat_ofNat (by omega)]
  congr 1
  dsimp only
  omega

end

theorem chars_encodeChar (c : Char) (rest : List UInt8) :
    chars (String.utf8EncodeChar c ++ rest) = c :: chars rest := by
  have hvalid : c.val.toNat < 0xD800 ∨ 0xDFFF < c.val.toNat ∧ c.val.toNat < 0x110000 := c.valid
  have hc : Char.ofNat c.val.toNat = c := Char.ofNat_toNat c
  unfold String.utf8EncodeChar
  dsimp only
  generalize c.val.toNat = v at hvalid hc ⊢
  subst hc
  split
  case isTrue h => exact chars_one rest (by omega)
  case isFalse h =>
    split
    case isTrue h => exact chars_two rest (by omega) (by omega)
    case isFalse h =>
      split
      case isTrue h => exact chars_three rest (by omega) (by omega)
      case isFalse h => exact chars_four rest (by omega) (by omega)

/-- Text is its own lossy text. -/
theorem text_toUTF8 (s : String) : text s.toUTF8 = s := by
  have hchars (cs : List Char) : chars cs.utf8Encode.data.toList = cs := by
    induction cs with
    | nil => exact chars.eq_1
    | cons c cs ih =>
      have hc : [c].utf8Encode.data.toList = String.utf8EncodeChar c := by
        rw [List.utf8Encode_singleton, List.data_toByteArray]
      rw [List.utf8Encode_cons, ByteArray.data_append, Array.toList_append, hc,
        chars_encodeChar, ih]
  have hbytes : s.toUTF8 = s.toList.utf8Encode := by
    rw [← String.toByteArray_ofList, String.ofList_toList]
    rfl
  rw [text, hbytes, hchars, String.ofList_toList]

end Lossy
end Text
end EngineHost
