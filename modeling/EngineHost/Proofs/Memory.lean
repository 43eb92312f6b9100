import EngineHost.Proofs.Session.Lines
import EngineHost.Proofs.Tracer.Patching
/-
One memory, whatever it is kept in.  A memory is a number of bytes.  A patch
that fits overwrites the bytes of its range and no other, a range that fits is
read byte by byte, and whatever does not fit is refused with the range and the
size.  A length that is not that of the data is refused before that.

The scripted engine checks and writes in one step, and the tracing engine makes
a patch first and puts it into its image later.  Both come to the same.
-/
namespace EngineHost

/-! ## Bounds -/

/-- A range is taken if it lies within the size, and refused as out of bounds
otherwise. -/
structure Bounded {α : Type} (size : Nat) (offset length : UInt32) (r : Except EngineError α) :
    Prop where
  accepts : (∃ x, r = .ok x) ↔ offset.toNat + length.toNat ≤ size
  refuses : ∀ e, r = .error e → e = .memoryOutOfBounds offset length size

section

variable {α β : Type} {size : Nat} {offset length : UInt32}

theorem rangeIn_of_le (h : offset.toNat + length.toNat ≤ size) :
    rangeIn size offset length = .ok (offset.toNat, offset.toNat + length.toNat) := if_pos h

theorem rangeIn_of_lt (h : size < offset.toNat + length.toNat) :
    rangeIn size offset length = .error (.memoryOutOfBounds offset length size) :=
  if_neg (Nat.not_le.2 h)

theorem rangeIn_bounded : Bounded size offset length (rangeIn size offset length) := by
  rcases Nat.lt_or_ge size (offset.toNat + length.toNat) with hlt | hle
  · rw [rangeIn_of_lt hlt]
    exact ⟨by simp [hlt], by simp⟩
  · rw [rangeIn_of_le hle]
    exact ⟨by simp [hle], by simp⟩

/-- Nothing is checked after the range. -/
theorem Bounded.map {r : Except EngineError α} (h : Bounded size offset length r) (f : α → β) :
    Bounded size offset length (r.map f) := by
  obtain ⟨haccepts, hrefuses⟩ := h
  cases r with
  | ok x => exact ⟨by simpa [Except.map] using haccepts, nofun⟩
  | error e =>
    refine ⟨by simpa [Except.map] using haccepts, fun e' he => ?_⟩
    cases he
    exact hrefuses e rfl

theorem checkLength_of_eq {data : ByteArray} (h : data.size = length.toNat) :
    checkLength length data = .ok () := if_pos h.symm

theorem checkLength_of_ne {data : ByteArray} (h : data.size ≠ length.toNat) :
    checkLength length data = .error (.patchLengthMismatch length data.size) :=
  if_neg (Ne.symm h)

theorem readAt_eq (mem : ByteArray) : readAt mem offset length =
    (rangeIn mem.size offset length).map fun (start, stop) => mem.extract start stop := by
  unfold readAt
  cases rangeIn mem.size offset length <;> rfl

theorem readAt_bounded (mem : ByteArray) : Bounded mem.size offset length (readAt mem offset length) := by
  rw [readAt_eq]
  exact rangeIn_bounded.map _

/-- Patching a scripted engine, once the length is right. -/
theorem Scripted.patch_eq {e : Scripted} {id : EngineId} {slot : ScriptedSlot}
    (hslot : e.slots[id]? = some slot) {data : ByteArray} (hlength : data.size = length.toNat) :
    e.patch id offset length data = (rangeIn slot.memory.size offset length).map fun (start, _) =>
      e.setSlot id { slot with memory := Bytes.overlay slot.memory start data } := by
  unfold patch
  rw [slot_eq_ok_iff.2 hslot]
  show (checkLength length data >>= fun _ => _) = _
  rw [checkLength_of_eq hlength]
  cases rangeIn slot.memory.size offset length <;> rfl

theorem Scripted.patch_bounded {e : Scripted} {id : EngineId} {slot : ScriptedSlot}
    (hslot : e.slots[id]? = some slot) {data : ByteArray} (hlength : data.size = length.toNat) :
    Bounded slot.memory.size offset length (e.patch id offset length data) := by
  rw [patch_eq hslot hlength]
  exact rangeIn_bounded.map _

/-- Putting a patch into a memory, once the length is right. -/
theorem Patch.applyTo_eq {mem data : ByteArray} (hlength : data.size = length.toNat) :
    Patch.applyTo { offset, data } mem = (rangeIn mem.size offset length).map fun (start, _) =>
      Bytes.overlay mem start data := by
  have hsmall : data.size < UInt32.size := hlength ▸ length.toNat_lt
  have hsame : data.size.toUInt32 = length := by
    rw [hlength]
    exact UInt32.ofNat_toNat
  unfold applyTo writeAt
  rw [if_pos hsmall]
  dsimp only
  rw [hsame]
  cases rangeIn mem.size offset length <;> rfl

end

/-! ## What a memory has to do -/

/-- A range of a memory has been overwritten, and nothing else. -/
structure Overwritten (mem : ByteArray) (offset length : UInt32) (data after : ByteArray) :
    Prop where
  fits : offset.toNat + length.toNat ≤ mem.size
  size_eq : after.size = mem.size
  inside : ∀ i < length.toNat, Bytes.byteAt after (offset.toNat + i) = Bytes.byteAt data i
  outside : ∀ i, i < offset.toNat ∨ offset.toNat + length.toNat ≤ i →
    Bytes.byteAt after i = Bytes.byteAt mem i

/-- The bytes of a range. -/
structure Extracted (mem : ByteArray) (offset length : UInt32) (bytes : ByteArray) : Prop where
  fits : offset.toNat + length.toNat ≤ mem.size
  size_eq : bytes.size = length.toNat
  inside : ∀ i < length.toNat, Bytes.byteAt bytes i = Bytes.byteAt mem (offset.toNat + i)

section

variable (mem : ByteArray) (offset length : UInt32)

/-- What comes of a patch, and the memory afterwards.  The stated length is
looked at before the range. -/
inductive Patched (data : ByteArray) : Except EngineError Unit → ByteArray → Prop where
  | mismatched (hlength : data.size ≠ length.toNat) :
      Patched data (.error (.patchLengthMismatch length data.size)) mem
  | outside (hlength : data.size = length.toNat)
      (hout : mem.size < offset.toNat + length.toNat) :
      Patched data (.error (.memoryOutOfBounds offset length mem.size)) mem
  | overwritten {after : ByteArray} (hlength : data.size = length.toNat)
      (hafter : Overwritten mem offset length data after) : Patched data (.ok ()) after

/-- What comes of reading a range. -/
inductive Read : Except EngineError ByteArray → Prop where
  | outside (hout : mem.size < offset.toNat + length.toNat) :
      Read (.error (.memoryOutOfBounds offset length mem.size))
  | extracted {bytes : ByteArray} (hbytes : Extracted mem offset length bytes) :
      Read (.ok bytes)

end

section

variable {mem data after after' : ByteArray} {offset length : UInt32}

theorem Overwritten.unique (h : Overwritten mem offset length data after)
    (h' : Overwritten mem offset length data after') : after = after' := by
  refine Bytes.ext_byteAt (h.size_eq.trans h'.size_eq.symm) fun i => ?_
  by_cases hin : offset.toNat ≤ i ∧ i < offset.toNat + length.toNat
  · obtain ⟨k, rfl⟩ := Nat.exists_eq_add_of_le hin.1
    rw [h.inside k (by omega), h'.inside k (by omega)]
  · rw [h.outside i (by omega), h'.outside i (by omega)]

theorem Extracted.unique {bytes bytes' : ByteArray} (h : Extracted mem offset length bytes)
    (h' : Extracted mem offset length bytes') : bytes = bytes' := by
  refine Bytes.ext_byteAt (h.size_eq.trans h'.size_eq.symm) fun i => ?_
  by_cases hin : i < length.toNat
  · rw [h.inside i hin, h'.inside i hin]
  · have hsize := h.size_eq
    have hsize' := h'.size_eq
    rw [Bytes.byteAt_eq_zero (by omega), Bytes.byteAt_eq_zero (by omega)]

theorem Patched.unique {r r' : Except EngineError Unit} (h : Patched mem offset length data r after)
    (h' : Patched mem offset length data r' after') : r = r' ∧ after = after' := by
  cases h with
  | mismatched hlength =>
    cases h' with
    | mismatched => exact ⟨rfl, rfl⟩
    | outside hlength' | overwritten hlength' => exact absurd hlength' hlength
  | outside hlength hout =>
    cases h' with
    | mismatched hlength' => exact absurd hlength hlength'
    | outside => exact ⟨rfl, rfl⟩
    | overwritten _ hafter => exact absurd hafter.fits (Nat.not_le.2 hout)
  | overwritten hlength hafter =>
    cases h' with
    | mismatched hlength' => exact absurd hlength hlength'
    | outside _ hout => exact absurd hafter.fits (Nat.not_le.2 hout)
    | overwritten _ hafter' => exact ⟨rfl, hafter.unique hafter'⟩

theorem Read.unique {r r' : Except EngineError ByteArray} (h : Read mem offset length r)
    (h' : Read mem offset length r') : r = r' := by
  cases h with
  | outside hout =>
    cases h' with
    | outside => rfl
    | extracted hbytes => exact absurd hbytes.fits (Nat.not_le.2 hout)
  | extracted hbytes =>
    cases h' with
    | outside hout => exact absurd hbytes.fits (Nat.not_le.2 hout)
    | extracted hbytes' => rw [hbytes.unique hbytes']

/-- Laying data over a memory overwrites a range of it. -/
theorem overwritten_overlay (hfits : offset.toNat + length.toNat ≤ mem.size)
    (hlength : data.size = length.toNat) :
    Overwritten mem offset length data (Bytes.overlay mem offset.toNat data) := by
  rw [← hlength] at hfits
  refine ⟨hlength ▸ hfits, Bytes.size_overlay hfits, fun i hi => ?_, fun i hi => ?_⟩
  · rw [Bytes.byteAt_overlay hfits, if_pos (by omega), Nat.add_sub_cancel_left]
  · rw [Bytes.byteAt_overlay hfits, if_neg (by omega)]

theorem extracted_extract (hfits : offset.toNat + length.toNat ≤ mem.size) :
    Extracted mem offset length
      (mem.extract offset.toNat (offset.toNat + length.toNat)) := by
  refine ⟨hfits, ?_, fun i hi => ?_⟩
  · rw [ByteArray.size_extract]
    omega
  · rw [Bytes.byteAt_extract, if_pos (by omega)]

theorem readAt_read : Read mem offset length (readAt mem offset length) := by
  rw [readAt_eq]
  rcases Nat.lt_or_ge mem.size (offset.toNat + length.toNat) with hlt | hle
  · rw [rangeIn_of_lt hlt]
    exact .outside hlt
  · rw [rangeIn_of_le hle]
    exact .extracted (extracted_extract hle)

/-- What a patch does to a scripted engine is what it does to its memory. -/
theorem Scripted.patch_patched {e : Scripted} {id : EngineId} {slot : ScriptedSlot}
    (hslot : e.slots[id]? = some slot) :
    (∃ after, Patched slot.memory offset length data (.ok ()) after ∧
      e.patch id offset length data = .ok (e.setSlot id { slot with memory := after })) ∨
    ∃ cause, Patched slot.memory offset length data (.error cause) slot.memory ∧
      e.patch id offset length data = .error cause := by
  by_cases hlength : data.size = length.toNat
  case neg =>
    refine .inr ⟨_, .mismatched hlength, ?_⟩
    unfold patch
    rw [slot_eq_ok_iff.2 hslot]
    show (checkLength length data >>= fun _ => _) = _
    rw [checkLength_of_ne hlength]
    rfl
  case pos =>
    rw [patch_eq hslot hlength]
    rcases Nat.lt_or_ge slot.memory.size (offset.toNat + length.toNat) with hlt | hle
    · rw [rangeIn_of_lt hlt]
      exact .inr ⟨_, .outside hlength hlt, rfl⟩
    · rw [rangeIn_of_le hle]
      exact .inl ⟨_, .overwritten hlength (overwritten_overlay hle hlength), rfl⟩

/-- What a patch does to an image.  A length that is not that of the data shows
before there is a patch. -/
theorem Patch.make_patched (mem : ByteArray) :
    (∃ cause, Patch.make offset length data = .error cause ∧
      Patched mem offset length data (.error cause) mem) ∨
    ∃ p, Patch.make offset length data = .ok p ∧
      ((∃ after, Patched mem offset length data (.ok ()) after ∧ p.applyTo mem = .ok after) ∨
        ∃ cause, Patched mem offset length data (.error cause) mem ∧
          p.applyTo mem = .error cause) := by
  unfold Patch.make
  by_cases hlength : data.size = length.toNat
  case neg =>
    rw [checkLength_of_ne hlength]
    exact .inl ⟨_, rfl, .mismatched hlength⟩
  case pos =>
    rw [checkLength_of_eq hlength]
    refine .inr ⟨_, rfl, ?_⟩
    rw [Patch.applyTo_eq hlength]
    rcases Nat.lt_or_ge mem.size (offset.toNat + length.toNat) with hlt | hle
    · rw [rangeIn_of_lt hlt]
      exact .inr ⟨_, .outside hlength hlt, rfl⟩
    · rw [rangeIn_of_le hle]
      exact .inl ⟨_, .overwritten hlength (overwritten_overlay hle hlength), rfl⟩

end

end EngineHost
