import EngineHost.Proofs.Following
import EngineHost.Tracer.Execution
/-
Patches one at a time and in order.  A patch goes through when it fits, which
depends on the size of the memory alone, and no patch changes that size.
-/
namespace EngineHost

/-- A range that lies past the end of a memory, and nothing else. -/
def EngineError.OfBounds (e : EngineError) : Prop :=
  ∃ offset length size, e = .memoryOutOfBounds offset length size

theorem rangeIn_error {size : Nat} {offset length : UInt32} {e : EngineError}
    (h : rangeIn size offset length = .error e) : e.OfBounds := by
  unfold rangeIn at h
  split at h
  · cases h
  · cases h
    exact ⟨_, _, _, rfl⟩

theorem checkLength_eq_error {length : UInt32} {data : ByteArray} {e : EngineError}
    (h : checkLength length data = .error e) : e = .patchLengthMismatch length data.size := by
  unfold checkLength at h
  split at h
  · cases h
  · cases h
    rfl

namespace Patch

theorem make_eq_error {offset length : UInt32} {data : ByteArray} {e : EngineError}
    (h : make offset length data = .error e) : e = .patchLengthMismatch length data.size := by
  rcases bind_eq_error_iff.1 h with h | ⟨_, _, ⟨⟩⟩
  exact checkLength_eq_error h

/-- Whether a memory of `size` bytes has room for a patch where it goes. -/
def FitsIn (p : Patch) (size : Nat) : Prop :=
  p.data.size < UInt32.size ∧ p.offset.toNat + p.data.size ≤ size

/-- The bytes that a patch covers. -/
def Covers (p : Patch) (i : Nat) : Prop :=
  p.offset.toNat ≤ i ∧ i < p.offset.toNat + p.data.size

theorem applyTo_eq_ok_iff {p : Patch} {mem mem' : ByteArray} :
    p.applyTo mem = .ok mem' ↔
      p.FitsIn mem.size ∧ mem' = Bytes.overlay mem p.offset.toNat p.data := by
  unfold applyTo writeAt FitsIn
  split
  case isTrue hsize =>
    have hlength : p.data.size.toUInt32.toNat = p.data.size := UInt32.toNat_ofNat_of_lt' hsize
    simp only [bind_eq_ok_iff, rangeIn_eq_ok, hlength]
    constructor
    · intro hex
      obtain ⟨_, ⟨hfits, rfl⟩, ⟨⟩⟩ := hex
      exact ⟨⟨hsize, hfits⟩, rfl⟩
    · intro hex
      obtain ⟨⟨_, hfits⟩, rfl⟩ := hex
      exact ⟨_, ⟨hfits, rfl⟩, rfl⟩
  case isFalse hsize =>
    constructor
    · intro heq
      cases heq
    · intro hex
      obtain ⟨⟨h, _⟩, _⟩ := hex
      exact absurd h hsize

theorem applyTo_error {p : Patch} {mem : ByteArray} {e : EngineError}
    (h : p.applyTo mem = .error e) : e.OfBounds ∧ ¬ p.FitsIn mem.size := by
  constructor
  · unfold applyTo writeAt at h
    split at h
    case isTrue =>
      rcases bind_eq_error_iff.1 h with h | ⟨_, _, ⟨⟩⟩
      exact rangeIn_error h
    case isFalse =>
      cases h
      exact ⟨_, _, _, rfl⟩
  · intro hfits
    have hok := applyTo_eq_ok_iff.2 ⟨hfits, rfl⟩
    rw [h] at hok
    cases hok

theorem size_overlay {p : Patch} {mem : ByteArray} (h : p.FitsIn mem.size) :
    (Bytes.overlay mem p.offset.toNat p.data).size = mem.size := Bytes.size_overlay h.2

end Patch

/-- A memory with patches put into it, in order. -/
def patchAll (mem : ByteArray) (ps : List Patch) : ByteArray :=
  ps.foldl (fun mem p => Bytes.overlay mem p.offset.toNat p.data) mem

theorem size_patchAll {ps : List Patch} {mem : ByteArray} (h : ∀ p ∈ ps, p.FitsIn mem.size) :
    (patchAll mem ps).size = mem.size := by
  induction ps generalizing mem with
  | nil => rfl
  | cons p ps ih =>
    obtain ⟨hp, hps⟩ := List.forall_mem_cons.1 h
    have hsize := Patch.size_overlay hp
    rw [← hsize] at hps ⊢
    exact ih hps

theorem replay_eq_ok_iff {ps : List Patch} {mem mem' : ByteArray} {noted noted' : List Region} :
    replay ps mem noted = .ok (mem', noted') ↔
      (∀ p ∈ ps, p.FitsIn mem.size) ∧ mem' = patchAll mem ps ∧
        noted' = noted ++ ps.map Region.ofPatch := by
  induction ps generalizing mem noted with
  | nil =>
    simp only [replay, patchAll, List.foldl_nil, List.map_nil, List.append_nil]
    constructor
    · intro heq
      cases heq
      exact ⟨fun _ h => (nomatch h), rfl, rfl⟩
    · intro hex
      obtain ⟨_, rfl, rfl⟩ := hex
      rfl
  | cons p ps ih =>
    simp only [replay, bind_eq_ok_iff, Patch.applyTo_eq_ok_iff, List.forall_mem_cons]
    constructor
    · intro hex
      obtain ⟨_, ⟨hp, rfl⟩, hrest⟩ := hex
      obtain ⟨hps, rfl, rfl⟩ := ih.1 hrest
      rw [Patch.size_overlay hp] at hps
      refine ⟨⟨hp, hps⟩, rfl, ?_⟩
      rw [List.append_assoc, List.map_cons, List.singleton_append]
    · intro hex
      obtain ⟨⟨hp, hps⟩, rfl, rfl⟩ := hex
      refine ⟨_, ⟨hp, rfl⟩, ih.2 ⟨?_, rfl, ?_⟩⟩
      · rwa [Patch.size_overlay hp]
      · rw [List.append_assoc, List.map_cons, List.singleton_append]

theorem replay_error {ps : List Patch} {mem : ByteArray} {noted : List Region} {e : EngineError}
    (h : replay ps mem noted = .error e) : e.OfBounds ∧ ¬ ∀ p ∈ ps, p.FitsIn mem.size := by
  induction ps generalizing mem noted with
  | nil => cases h
  | cons p ps ih =>
    rcases bind_eq_error_iff.1 h with h | ⟨mem', hmem', h⟩
    · obtain ⟨hbounds, hfits⟩ := Patch.applyTo_error h
      exact ⟨hbounds, fun hall => hfits (hall p List.mem_cons_self)⟩
    · obtain ⟨hp, rfl⟩ := Patch.applyTo_eq_ok_iff.1 hmem'
      obtain ⟨hbounds, hfits⟩ := ih h
      refine ⟨hbounds, fun hall => hfits fun q hq => ?_⟩
      rw [Patch.size_overlay hp]
      exact hall q (List.mem_cons_of_mem p hq)

/-- Whether the patches can be replayed on the memory of an instance.  Without a
memory to show there is room for no patch at all, not even for an empty one. -/
def Guest.Module.Replays (m : Guest.Module) (ps : List Patch) (size : Nat) : Prop :=
  if m.showsMemory then ∀ p ∈ ps, p.FitsIn size else ps = []

theorem Guest.Module.replays_nil {m : Guest.Module} {size : Nat} : m.Replays [] size := by
  unfold Replays
  split
  · exact fun _ h => nomatch h
  · rfl

section

variable {config : TracerConfig} {plan : Plan} {machine : Guest.Machine} {t : Trace}

/-- What the preparation of a memory makes of it. -/
theorem prepareMemory_eq_ok {machine' : Guest.Machine} {t' : Trace}
    (h : prepareMemory config plan machine t = .ok (machine', t')) :
    plan.module.Replays plan.patches machine.memory.size ∧
      machine' = { machine with memory := patchAll machine.memory plan.patches } ∧
      t'.memoryChanges = t.memoryChanges ++ plan.patches.map Region.ofPatch ∧
      t'.calls = t.calls := by
  unfold prepareMemory at h
  unfold Guest.Module.Replays
  split at h
  case isTrue hshows =>
    obtain ⟨⟨mem, noted⟩, hreplay, ⟨⟩⟩ := bind_eq_ok_iff.1 h
    obtain ⟨hfits, rfl, rfl⟩ := replay_eq_ok_iff.1 hreplay
    rw [if_pos hshows]
    exact ⟨hfits, rfl, rfl, rfl⟩
  case isFalse hshows =>
    split at h
    case h_1 hnone =>
      cases h
      rw [if_neg hshows, hnone]
      exact ⟨rfl, rfl, (List.append_nil _).symm, rfl⟩
    case h_2 => cases h

theorem prepareMemory_error {e : EngineError} (h : prepareMemory config plan machine t = .error e) :
    e.OfBounds ∧ ¬ plan.module.Replays plan.patches machine.memory.size := by
  unfold prepareMemory at h
  unfold Guest.Module.Replays
  split at h
  case isTrue hshows =>
    rw [if_pos hshows]
    rcases bind_eq_error_iff.1 h with h | ⟨_, _, ⟨⟩⟩
    exact replay_error h
  case isFalse hshows =>
    rw [if_neg hshows]
    split at h
    case h_1 => cases h
    case h_2 p rest hps =>
      cases h
      rw [hps]
      exact ⟨⟨_, _, _, rfl⟩, fun hnil => nomatch hnil⟩

/-- A memory is prepared exactly when the patches can be replayed on it. -/
theorem prepareMemory_isOk_iff :
    (∃ ready, prepareMemory config plan machine t = .ok ready) ↔
      plan.module.Replays plan.patches machine.memory.size := by
  constructor
  · intro hex
    obtain ⟨⟨machine', t'⟩, h⟩ := hex
    exact (prepareMemory_eq_ok h).1
  · intro hreplays
    cases h : prepareMemory config plan machine t with
    | ok ready => exact ⟨ready, rfl⟩
    | error e => exact absurd hreplays (prepareMemory_error h).2

end

end EngineHost
