import EngineHost.Proofs.Runs
import EngineHost.Proofs.Tracer.Patching
/-
Regions written back.  A region goes where it sits, as the patch that it may
come from.  The patches of a replay are written as they were applied, and the
non-zero runs of a memory, over zeros, give the memory back.
-/
namespace EngineHost

/-! ## Writing regions -/

namespace Region

/-- Write a region where it sits.  Its length has to be the length of its data. -/
def writeTo (r : Region) (mem : ByteArray) : Except EngineError ByteArray := do
  let p ← Patch.make r.offset r.length r.data
  p.applyTo mem

/-- Write regions in order. -/
def writeAll (mem : ByteArray) (regions : List Region) : Except EngineError ByteArray :=
  regions.foldlM (fun mem r => r.writeTo mem) mem

theorem writeAll_cons_of_fits {mem : ByteArray} {p : Patch} (h : p.FitsIn mem.size)
    (rest : List Region) : writeAll mem (.ofPatch p :: rest) =
      writeAll (Bytes.overlay mem p.offset.toNat p.data) rest := by
  have hlength : p.data.size.toUInt32.toNat = p.data.size := UInt32.toNat_ofNat_of_lt' h.1
  have hmake : Patch.make p.offset p.data.size.toUInt32 p.data = .ok p := by
    rw [Patch.make, checkLength, if_pos hlength]
    rfl
  have hwrite : (Region.ofPatch p).writeTo mem =
      .ok (Bytes.overlay mem p.offset.toNat p.data) := by
    show (Patch.make p.offset p.data.size.toUInt32 p.data >>= fun p => p.applyTo mem) = _
    rw [hmake]
    exact Patch.applyTo_eq_ok_iff.2 ⟨h, rfl⟩
  rw [writeAll, List.foldlM_cons, hwrite]
  rfl

/-- Patches that fit are written as they were applied. -/
theorem writeAll_patches {ps : List Patch} {mem : ByteArray} (h : ∀ p ∈ ps, p.FitsIn mem.size) :
    writeAll mem (ps.map .ofPatch) = .ok (patchAll mem ps) := by
  induction ps generalizing mem with
  | nil => rfl
  | cons p ps ih =>
    obtain ⟨hp, hps⟩ := List.forall_mem_cons.1 h
    rw [List.map_cons, writeAll_cons_of_fits hp]
    refine ih ?_
    rwa [Patch.size_overlay hp]

theorem writeAll_append {mem : ByteArray} {regions regions' : List Region} :
    writeAll mem (regions ++ regions') = writeAll mem regions >>= (writeAll · regions') :=
  List.foldlM_append

/-- Writing spans of a memory is copying them, as long as their places can be
told in 32 bits. -/
theorem writeAll_spans {bytes mem : ByteArray} {spans : List Bytes.Span}
    (hspans : ∀ s ∈ spans, s.start < s.stop ∧ s.stop ≤ bytes.size)
    (hbytes : bytes.size < UInt32.size) (hsize : mem.size = bytes.size) :
    writeAll mem (spans.map (.ofSpan bytes)) = .ok (Bytes.copySpans bytes spans mem) := by
  induction spans generalizing mem with
  | nil => rfl
  | cons s spans ih =>
    obtain ⟨⟨hlt, hstop⟩, hspans⟩ := List.forall_mem_cons.1 hspans
    -- The span as a patch that fits.
    have hoffset : s.start.toUInt32.toNat = s.start := UInt32.toNat_ofNat_of_lt' (by omega)
    have hdata := Bytes.size_extract_span (s := s) hstop
    have hfits : ({ offset := s.start.toUInt32, data := bytes.extract s.start s.stop } :
        Patch).FitsIn mem.size := by
      simp only [Patch.FitsIn, hoffset, hdata]
      omega
    have hwrite := writeAll_cons_of_fits hfits (spans.map (.ofSpan bytes))
    have hnext := Patch.size_overlay hfits
    simp only [hoffset] at hwrite hnext
    rw [Bytes.copySpans_cons]
    exact hwrite.trans (ih hspans (hnext.trans hsize))

/-- Over zeros the runs of a memory restore all of it. -/
theorem writeAll_runs {bytes : ByteArray} (h : bytes.size < UInt32.size) :
    writeAll (Bytes.zeros bytes.size) ((Bytes.nonZeroRuns bytes).map (.ofSpan bytes)) =
      .ok bytes := by
  have hruns := Bytes.nonZeroRuns_runs bytes
  have hspans (s : Bytes.Span) (hs : s ∈ Bytes.nonZeroRuns bytes) :
      s.start < s.stop ∧ s.stop ≤ bytes.size :=
    ⟨hruns.nonempty s hs, Bytes.stop_le_size hs⟩
  rw [writeAll_spans hspans h (Bytes.size_zeros _), Bytes.copySpans_nonZeroRuns]

end Region

end EngineHost
