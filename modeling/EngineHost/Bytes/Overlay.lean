/-
Memories as byte arrays: zero-filled memories, and the replacement of a part of
one by other bytes.
-/
namespace EngineHost
namespace Bytes

/-- Arrays of bytes are equal when their bytes are. -/
instance (priority := 1100) decEq : DecidableEq ByteArray := fun a b =>
  decidable_of_iff (a.data = b.data) ⟨ByteArray.ext, congrArg ByteArray.data⟩

/-- `n` zero bytes, built by doubling, since memories of many pages are common
and a byte at a time is slow. -/
def zeros (n : Nat) : ByteArray :=
  if n = 0 then .empty
  else
    let half := zeros (n / 2)
    if n % 2 = 0 then half ++ half else (half ++ half).push 0
termination_by n

theorem size_zeros (n : Nat) : (zeros n).size = n := by
  induction n using Nat.strongRecOn with
  | ind n ih =>
    rw [zeros]
    split
    · simp_all
    · have h := ih (n / 2) (by omega)
      split <;> simp [ByteArray.size_append, ByteArray.size_push, h] <;> omega

/-- The byte at `i`.  Past the end there are only zeros. -/
def byteAt (mem : ByteArray) (i : Nat) : UInt8 := if h : i < mem.size then mem[i] else 0

theorem byteAt_eq_getElem {mem : ByteArray} {i : Nat} (h : i < mem.size) :
    byteAt mem i = mem[i] := dif_pos h

theorem byteAt_eq_zero {mem : ByteArray} {i : Nat} (h : mem.size ≤ i) : byteAt mem i = 0 :=
  dif_neg (by omega)

/-- Two memories of one size with the same bytes are the same. -/
theorem ext_byteAt {a b : ByteArray} (hs : a.size = b.size)
    (h : ∀ i, byteAt a i = byteAt b i) : a = b := by
  apply ByteArray.ext_getElem hs
  intro i ha hb
  rw [← byteAt_eq_getElem ha, ← byteAt_eq_getElem hb, h]

theorem byteAt_append (a b : ByteArray) (i : Nat) :
    byteAt (a ++ b) i = if i < a.size then byteAt a i else byteAt b (i - a.size) := by
  by_cases ha : i < a.size
  · rw [if_pos ha, byteAt_eq_getElem ha,
      byteAt_eq_getElem (by rw [ByteArray.size_append]; omega), ByteArray.getElem_append_left ha]
  · rw [if_neg ha]
    by_cases hb : i < (a ++ b).size
    · rw [byteAt_eq_getElem hb, ByteArray.getElem_append_right (by omega),
        byteAt_eq_getElem]
    · rw [byteAt_eq_zero (by omega), byteAt_eq_zero (by rw [ByteArray.size_append] at hb; omega)]

theorem byteAt_extract (a : ByteArray) (start stop i : Nat) :
    byteAt (a.extract start stop) i = if start + i < stop then byteAt a (start + i) else 0 := by
  by_cases h : i < (a.extract start stop).size
  · have h' := h
    rw [ByteArray.size_extract] at h'
    rw [byteAt_eq_getElem h, if_pos (by omega), byteAt_eq_getElem (by omega),
      ByteArray.getElem_extract]
  · rw [byteAt_eq_zero (by omega)]
    rw [ByteArray.size_extract] at h
    split
    · rw [byteAt_eq_zero (by omega)]
    · rfl

theorem byteAt_push_zero (a : ByteArray) (i : Nat) : byteAt (a.push 0) i = byteAt a i := by
  by_cases hi : i < a.size
  · rw [byteAt_eq_getElem hi, byteAt_eq_getElem (by rw [ByteArray.size_push]; omega)]
    exact Array.getElem_push_lt hi
  · have h : byteAt a i = 0 := byteAt_eq_zero (by omega)
    rw [h]
    by_cases hi' : i = a.size
    · subst hi'
      rw [byteAt_eq_getElem (by rw [ByteArray.size_push]; omega)]
      exact Array.getElem_push_eq
    · exact byteAt_eq_zero (by rw [ByteArray.size_push]; omega)

theorem byteAt_zeros (n i : Nat) : byteAt (zeros n) i = 0 := by
  induction n using Nat.strongRecOn generalizing i with
  | ind n ih =>
    rw [zeros]
    split
    case isTrue h => rfl
    case isFalse h =>
      have hz := ih (n / 2) (by omega)
      split <;> simp only [byteAt_push_zero, byteAt_append, hz, ite_self]

/-- Put `data` in place of the bytes from `offset` on.  The size stays as it is
when the data fits, which is for the caller to check. -/
def overlay (mem : ByteArray) (offset : Nat) (data : ByteArray) : ByteArray :=
  data.copySlice 0 mem offset data.size

theorem overlay_eq (mem : ByteArray) (offset : Nat) (data : ByteArray) :
    overlay mem offset data =
      mem.extract 0 offset ++ data.extract 0 data.size ++
        mem.extract (offset + data.size) mem.size := by
  simp [overlay, ByteArray.copySlice_eq_append]

theorem size_overlay {mem : ByteArray} {offset : Nat} {data : ByteArray}
    (h : offset + data.size ≤ mem.size) : (overlay mem offset data).size = mem.size := by
  simp only [overlay_eq, ByteArray.size_append, ByteArray.size_extract]
  omega

/-- An overlay changes the bytes it covers and no other. -/
theorem byteAt_overlay {mem : ByteArray} {offset : Nat} {data : ByteArray}
    (h : offset + data.size ≤ mem.size) (i : Nat) :
    byteAt (overlay mem offset data) i =
      if offset ≤ i ∧ i < offset + data.size then byteAt data (i - offset) else byteAt mem i := by
  have ho : min offset mem.size = offset := Nat.min_eq_left (by omega)
  simp only [overlay_eq, byteAt_append, byteAt_extract, ByteArray.size_append,
    ByteArray.size_extract, Nat.min_self, ho, Nat.sub_zero]
  clear ho
  by_cases lo : i < offset
  · rw [if_pos (by omega), if_pos lo, if_pos (by omega), if_neg (by omega), Nat.zero_add]
  · by_cases hi : i < offset + data.size
    · rw [if_pos (by omega), if_neg lo, if_pos (by omega), if_pos ⟨by omega, hi⟩, Nat.zero_add]
    · rw [if_neg hi, if_neg (show ¬ (offset ≤ i ∧ i < offset + data.size) by omega)]
      split
      · congr 1; omega
      · exact (byteAt_eq_zero (by omega)).symm

end Bytes
end EngineHost
