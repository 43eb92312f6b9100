import Mathlib.Data.List.Pairwise
import Mathlib.Data.List.Sort
import EngineHost.Bytes.Overlay
import EngineHost.Bytes.Runs
/-
The runs of a memory, and why there is only one way to list them.

What the runs of a set of indices are is said without a scan: spans in order
with gaps between them, which hold these indices and no others.  Such a list has
exactly the longest spans within the set for members, and since it is in order
the members determine it.  A scan produces such a list, one run at a time.

Nothing but zeros lies outside the runs, so they restore a memory over zeros.
-/
namespace EngineHost
namespace Bytes

/-! ## Runs of a set of indices -/

/-- The indices that a span holds. -/
instance : Membership Nat Span := ⟨fun s k => s.start ≤ k ∧ k < s.stop⟩

theorem Span.mem_iff {s : Span} {k : Nat} : k ∈ s ↔ s.start ≤ k ∧ k < s.stop := Iff.rfl

/-- A span at whose indices `P` holds and that cannot be extended at either
end. -/
structure Span.IsRunOf (P : Nat → Prop) (s : Span) : Prop where
  nonempty : s.start < s.stop
  holds : ∀ k ∈ s, P k
  longest : ∀ t : Span, t.start ≤ s.start → s.stop ≤ t.stop → (∀ k ∈ t, P k) → t = s

/-- Spans that hold the indices where `P` does, in increasing order and with an
index or more between one and the next. -/
structure RunsOf (P : Nat → Prop) (spans : List Span) : Prop where
  nonempty : ∀ s ∈ spans, s.start < s.stop
  apart : spans.Pairwise fun s t => s.stop < t.start
  covers : ∀ k, (∃ s ∈ spans, k ∈ s) ↔ P k

namespace RunsOf

variable {P Q : Nat → Prop} {s t : Span} {spans spans' : List Span} {k : Nat}

theorem nil (h : ∀ k, ¬ P k) : RunsOf P [] :=
  ⟨nofun, .nil, fun k => ⟨nofun, fun hk => absurd hk (h k)⟩⟩

/-- One more run, before all others and not next to any of them. -/
theorem cons (h : RunsOf Q spans) (hlt : s.start < s.stop) (hafter : ∀ k, Q k → s.stop < k)
    (hiff : ∀ k, P k ↔ k ∈ s ∨ Q k) : RunsOf P (s :: spans) where
  nonempty := List.forall_mem_cons.2 ⟨hlt, h.nonempty⟩
  apart := by
    refine List.pairwise_cons.2 ⟨fun t ht => ?_, h.apart⟩
    have hfirst : t.start ∈ t := ⟨Nat.le_refl _, h.nonempty t ht⟩
    exact hafter _ ((h.covers _).1 ⟨t, ht, hfirst⟩)
  covers k := by rw [List.exists_mem_cons_iff, h.covers, hiff]

theorem holds (h : RunsOf P spans) (hs : s ∈ spans) (hk : k ∈ s) : P k :=
  (h.covers k).1 ⟨s, hs, hk⟩

theorem increasing (h : RunsOf P spans) : spans.Pairwise fun s t => s.start < t.start :=
  h.apart.imp_of_mem fun hs _ hlt => Nat.lt_trans (h.nonempty _ hs) hlt

theorem before_or_after (h : RunsOf P spans) (hs : s ∈ spans) (ht : t ∈ spans) (hne : s ≠ t) :
    s.stop < t.start ∨ t.stop < s.start := by
  have hsymm : Std.Symm fun s t : Span => s.stop < t.start ∨ t.stop < s.start :=
    ⟨fun _ _ => Or.symm⟩
  have hapart : spans.Pairwise fun s t => s.stop < t.start ∨ t.stop < s.start :=
    h.apart.imp Or.inl
  exact hapart.forall hs ht hne

/-- Where `P` holds next to a run is in that run. -/
theorem mem_of_next (h : RunsOf P spans) (hs : s ∈ spans) (hk : P k) (hlo : s.start ≤ k + 1)
    (hhi : k ≤ s.stop) : k ∈ s := by
  obtain ⟨t, ht, hkt⟩ := (h.covers k).2 hk
  by_cases heq : s = t
  case pos => exact heq ▸ hkt
  case neg =>
    rw [Span.mem_iff] at hkt
    rcases h.before_or_after hs ht heq with hlt | hlt <;> omega

theorem not_before (h : RunsOf P spans) (hs : s ∈ spans) (hk : k + 1 = s.start) : ¬ P k := by
  intro hP
  have hlt := h.nonempty s hs
  have hmem := h.mem_of_next hs hP (by omega) (by omega)
  exact absurd hmem.1 (by omega)

theorem not_stop (h : RunsOf P spans) (hs : s ∈ spans) : ¬ P s.stop := by
  intro hP
  have hlt := h.nonempty s hs
  have hmem := h.mem_of_next hs hP (by omega) (Nat.le_refl _)
  exact absurd hmem.2 (Nat.lt_irrefl _)

theorem isRunOf (h : RunsOf P spans) (hs : s ∈ spans) : s.IsRunOf P where
  nonempty := h.nonempty s hs
  holds _ hk := h.holds hs hk
  longest t hstart hstop ht := by
    have hlt := h.nonempty s hs
    have hbefore : ¬ t.start < s.start := fun hless =>
      h.not_before hs (k := s.start - 1) (by omega) (ht _ ⟨by omega, by omega⟩)
    have hafter : ¬ s.stop < t.stop := fun hmore => h.not_stop hs (ht _ ⟨by omega, hmore⟩)
    rw [Span.mk.injEq]
    exact ⟨by omega, by omega⟩

/-- The members are the longest spans where `P` holds, all of them. -/
theorem mem_iff (h : RunsOf P spans) : s ∈ spans ↔ s.IsRunOf P := by
  refine ⟨h.isRunOf, fun hs => ?_⟩
  obtain ⟨t, ht, hfirst⟩ := (h.covers s.start).2 (hs.holds _ ⟨Nat.le_refl _, hs.nonempty⟩)
  -- The member that holds the first index of `s` reaches as far as `s` does.
  have hstop : s.stop ≤ t.stop := by
    by_contra hlt
    have hle : s.start ≤ t.stop := Nat.le_of_lt hfirst.2
    exact h.not_stop ht (hs.holds _ ⟨hle, Nat.lt_of_not_le hlt⟩)
  have heq : t = s := hs.longest t hfirst.1 hstop fun _ hk => h.holds ht hk
  exact heq ▸ ht

theorem unique (h : RunsOf P spans) (h' : RunsOf P spans') : spans = spans' := by
  have hirrefl : Std.Irrefl fun s t : Span => s.start < t.start := ⟨fun _ => Nat.lt_irrefl _⟩
  have hantisymm : Std.Antisymm fun s t : Span => s.start < t.start :=
    ⟨fun _ _ hlt hgt => absurd hgt (Nat.lt_asymm hlt)⟩
  exact h.increasing.eq_of_mem_iff h'.increasing fun _ => h.mem_iff.trans h'.mem_iff.symm

end RunsOf

/-! ## The scan -/

section

variable {bytes : ByteArray} {i k : Nat}

/-- What a search has skipped. -/
theorem skipped_nextWhere {p : UInt8 → Bool} (hi : i ≤ k) (hk : k < nextWhere p bytes i)
    (hsize : k < bytes.size) : p bytes[k] = false := by
  fun_induction nextWhere p bytes i with
  | case1 i hlt hp => omega
  | case2 i hlt hp ih =>
    by_cases heq : i = k
    case pos =>
      subst heq
      simpa using hp
    case neg => exact ih (by omega) hk
  | case3 i hge => omega

/-- Before the next byte that is not zero there are only zeros. -/
theorem byteAt_of_lt_nextWhere (hi : i ≤ k) (hk : k < nextWhere (· != 0) bytes i) :
    byteAt bytes k = 0 := by
  have hsize : k < bytes.size := Nat.lt_of_lt_of_le hk (nextWhere_le _ _ _)
  rw [byteAt_eq_getElem hsize]
  simpa using skipped_nextWhere hi hk hsize

/-- Before the next zero there are none. -/
theorem byteAt_ne_zero_of_lt_nextWhere (hi : i ≤ k) (hk : k < nextWhere (· == 0) bytes i) :
    byteAt bytes k ≠ 0 := by
  have hsize : k < bytes.size := Nat.lt_of_lt_of_le hk (nextWhere_le _ _ _)
  rw [byteAt_eq_getElem hsize]
  simpa using skipped_nextWhere hi hk hsize

/-- Where a search for a zero ends there is one, also past the end. -/
theorem byteAt_nextWhere_zero (bytes : ByteArray) (i : Nat) :
    byteAt bytes (nextWhere (· == 0) bytes i) = 0 := by
  rcases Nat.lt_or_ge (nextWhere (· == 0) bytes i) bytes.size with hlt | hge
  · rw [byteAt_eq_getElem hlt]
    simpa using holds_nextWhere (p := (· == 0)) hlt
  · exact byteAt_eq_zero hge

theorem lt_size_of_byteAt_ne_zero (h : byteAt bytes k ≠ 0) : k < bytes.size := by
  by_contra hge
  exact h (byteAt_eq_zero (Nat.not_lt.1 hge))

/-- One step of a scan.  What there is to find from an index on is the run that
the step finds, and what there is to find from the end of that run on. -/
theorem found_or_left {start stop : Nat} (hi : i ≤ bytes.size)
    (hstart : start = nextWhere (· != 0) bytes i) (hstop : stop = nextWhere (· == 0) bytes start)
    (hlt : start < stop) :
    (i ≤ k ∧ byteAt bytes k ≠ 0) ↔
      k ∈ (⟨start, stop⟩ : Span) ∨ (stop ≤ k ∧ byteAt bytes k ≠ 0) := by
  have hle : i ≤ start := hstart ▸ le_nextWhere _ bytes i hi
  rw [Span.mem_iff]
  constructor
  · rintro ⟨hik, hk⟩
    have hge : start ≤ k := by
      by_contra hgap
      exact hk (byteAt_of_lt_nextWhere hik (hstart ▸ Nat.lt_of_not_le hgap))
    rcases Nat.lt_or_ge k stop with hrun | hafter
    · exact .inl ⟨hge, hrun⟩
    · exact .inr ⟨hafter, hk⟩
  · rintro (⟨hge, hrun⟩ | ⟨hafter, hk⟩)
    · exact ⟨Nat.le_trans hle hge, byteAt_ne_zero_of_lt_nextWhere hge (hstop ▸ hrun)⟩
    · exact ⟨by omega, hk⟩

/-- What a scan finds from an index on are the runs of the bytes from there on
that are not zero. -/
theorem runsFrom_runs (hi : i ≤ bytes.size) (found : List Span) :
    ∃ spans, runsFrom bytes i found = found.reverse ++ spans ∧
      RunsOf (fun k => i ≤ k ∧ byteAt bytes k ≠ 0) spans := by
  fun_induction runsFrom bytes i found with
  | case1 i found start hlt stop ih =>
    have hnonzero : (bytes[start] == 0) = false := by
      simpa using holds_nextWhere (p := (· != 0)) hlt
    have hstop : start < stop := nextWhere_lt hlt hnonzero
    obtain ⟨spans, hspans, hruns⟩ := ih (nextWhere_le _ bytes start)
    refine ⟨⟨start, stop⟩ :: spans, ?_, hruns.cons hstop (fun k hk => ?_) fun k => ?_⟩
    · rw [hspans, List.reverse_cons, List.append_assoc, List.singleton_append]
    · -- The zero at `stop` parts this run from the next.
      have hzero : byteAt bytes stop = 0 := byteAt_nextWhere_zero bytes start
      have hne : stop ≠ k := fun heq => hk.2 (heq ▸ hzero)
      exact Nat.lt_of_le_of_ne hk.1 hne
    · exact found_or_left hi rfl rfl hstop
  | case2 i found start hge =>
    refine ⟨[], (List.append_nil _).symm, .nil fun k hk => hk.2 ?_⟩
    by_cases hlt : k < start
    · exact byteAt_of_lt_nextWhere hk.1 hlt
    · exact byteAt_eq_zero (by omega)

theorem nonZeroRuns_runs (bytes : ByteArray) :
    RunsOf (byteAt bytes · ≠ 0) (nonZeroRuns bytes) := by
  obtain ⟨spans, hspans, hruns⟩ := runsFrom_runs (Nat.zero_le bytes.size) []
  rw [nonZeroRuns, hspans, List.reverse_nil, List.nil_append]
  simpa only [Nat.zero_le, true_and] using hruns

theorem runsOf_iff {spans : List Span} :
    RunsOf (byteAt bytes · ≠ 0) spans ↔ spans = nonZeroRuns bytes :=
  ⟨fun h => h.unique (nonZeroRuns_runs bytes), fun h => h ▸ nonZeroRuns_runs bytes⟩

theorem stop_le_size {s : Span} (hs : s ∈ nonZeroRuns bytes) : s.stop ≤ bytes.size := by
  have hlt := (nonZeroRuns_runs bytes).nonempty s hs
  have hlast : s.stop - 1 ∈ s := ⟨by omega, by omega⟩
  have hsize := lt_size_of_byteAt_ne_zero ((nonZeroRuns_runs bytes).holds hs hlast)
  omega

end

/-! ## Copying -/

/-- Copy spans of one memory to the same places of another, in order. -/
def copySpans (source : ByteArray) (spans : List Span) (mem : ByteArray) : ByteArray :=
  spans.foldl (fun mem s => overlay mem s.start (source.extract s.start s.stop)) mem

section

variable {source mem : ByteArray} {s : Span} {spans : List Span}

theorem copySpans_cons : copySpans source (s :: spans) mem =
    copySpans source spans (overlay mem s.start (source.extract s.start s.stop)) := by
  rw [copySpans, List.foldl_cons, ← copySpans]

theorem size_extract_span (hstop : s.stop ≤ source.size) :
    (source.extract s.start s.stop).size = s.stop - s.start := by
  rw [ByteArray.size_extract, Nat.min_eq_left hstop]

theorem byteAt_copy_mem (hstop : s.stop ≤ source.size) (hsize : mem.size = source.size) {k : Nat}
    (hk : k ∈ s) :
    byteAt (overlay mem s.start (source.extract s.start s.stop)) k = byteAt source k := by
  obtain ⟨hlo, hhi⟩ := hk
  have hdata := size_extract_span (s := s) hstop
  rw [byteAt_overlay (by omega), if_pos ⟨hlo, by omega⟩, byteAt_extract, if_pos (by omega),
    Nat.add_sub_cancel' hlo]

theorem byteAt_copy_not_mem (hlt : s.start < s.stop) (hstop : s.stop ≤ source.size)
    (hsize : mem.size = source.size) {k : Nat} (hk : k ∉ s) :
    byteAt (overlay mem s.start (source.extract s.start s.stop)) k = byteAt mem k := by
  have hdata := size_extract_span (s := s) hstop
  rw [Span.mem_iff] at hk
  rw [byteAt_overlay (by omega), if_neg (by omega)]

/-- Copying spans restores a memory that differs nowhere else. -/
theorem copySpans_eq (hspans : ∀ s ∈ spans, s.start < s.stop ∧ s.stop ≤ source.size)
    (hsize : mem.size = source.size)
    (hrest : ∀ k, (∀ s ∈ spans, k ∉ s) → byteAt mem k = byteAt source k) :
    copySpans source spans mem = source := by
  induction spans generalizing mem with
  | nil => exact ext_byteAt hsize fun k => hrest k nofun
  | cons s spans ih =>
    obtain ⟨⟨hlt, hstop⟩, hspans⟩ := List.forall_mem_cons.1 hspans
    have hdata := size_extract_span (s := s) hstop
    rw [copySpans_cons]
    refine ih hspans ((size_overlay (by omega)).trans hsize) fun k hk => ?_
    by_cases hmem : k ∈ s
    · exact byteAt_copy_mem hstop hsize hmem
    · rw [byteAt_copy_not_mem hlt hstop hsize hmem]
      exact hrest k (List.forall_mem_cons.2 ⟨hmem, hk⟩)

theorem copySpans_nonZeroRuns (bytes : ByteArray) :
    copySpans bytes (nonZeroRuns bytes) (zeros bytes.size) = bytes := by
  have hruns := nonZeroRuns_runs bytes
  refine copySpans_eq (fun s hs => ⟨hruns.nonempty s hs, stop_le_size hs⟩) (size_zeros _)
    fun k hk => ?_
  rw [byteAt_zeros]
  by_contra hne
  obtain ⟨s, hs, hmem⟩ := (hruns.covers k).2 (Ne.symm hne)
  exact hk s hs hmem

end

/-- The runs of a memory are the one list of spans that are not empty, are in
order with gaps between them, and hold the bytes that are not zero and no others.
They lie within the memory, they are the spans that cannot be extended, and over
zeros they restore the memory, which then has the same runs. -/
theorem nonZeroRuns_canonical (bytes : ByteArray) :
    (∀ spans, RunsOf (byteAt bytes · ≠ 0) spans ↔ spans = nonZeroRuns bytes) ∧
    (∀ s, s ∈ nonZeroRuns bytes ↔ s.IsRunOf (byteAt bytes · ≠ 0)) ∧
    (∀ s ∈ nonZeroRuns bytes, s.stop ≤ bytes.size) ∧
    copySpans bytes (nonZeroRuns bytes) (zeros bytes.size) = bytes ∧
    nonZeroRuns (copySpans bytes (nonZeroRuns bytes) (zeros bytes.size)) = nonZeroRuns bytes := by
  have hrestored := copySpans_nonZeroRuns bytes
  refine ⟨fun _ => runsOf_iff, fun _ => (nonZeroRuns_runs bytes).mem_iff, fun _ => stop_le_size,
    hrestored, ?_⟩
  rw [hrestored]

/-- Bytes with a run at either end and a gap of a single zero. -/
def fringedBytes : ByteArray := ⟨#[7, 8, 0, 0, 9, 0, 1]⟩

/-- The run at the start, cut in two, is no run any more. -/
theorem fringedBytes_runs :
    nonZeroRuns fringedBytes = [⟨0, 2⟩, ⟨4, 5⟩, ⟨6, 7⟩] ∧
      RunsOf (byteAt fringedBytes · ≠ 0) [⟨0, 2⟩, ⟨4, 5⟩, ⟨6, 7⟩] ∧
      ¬ RunsOf (byteAt fringedBytes · ≠ 0) [⟨0, 1⟩, ⟨1, 2⟩, ⟨4, 5⟩, ⟨6, 7⟩] ∧
      (⟨6, 7⟩ : Span) ∈ nonZeroRuns fringedBytes ∧ 7 ≤ fringedBytes.size := by
  have hruns : nonZeroRuns fringedBytes = [⟨0, 2⟩, ⟨4, 5⟩, ⟨6, 7⟩] := by decide +kernel
  have hlast : (⟨6, 7⟩ : Span) ∈ nonZeroRuns fringedBytes := by
    rw [hruns]
    decide
  obtain ⟨hiff, -, hwithin, -⟩ := nonZeroRuns_canonical fringedBytes
  refine ⟨hruns, (hiff _).2 hruns.symm, fun hcut => ?_, hlast, hwithin _ hlast⟩
  have heq := (hiff _).1 hcut
  rw [hruns] at heq
  exact absurd heq (by decide)

end Bytes
end EngineHost
