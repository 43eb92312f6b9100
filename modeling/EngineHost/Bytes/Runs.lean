/-
The runs of non-zero bytes in a memory: the maximal stretches that hold no
zero, in order.
-/
namespace EngineHost
namespace Bytes

/-- The bytes from `start` up to but not including `stop`. -/
structure Span where
  start : Nat
  stop : Nat
  deriving DecidableEq

/-- The first index from `i` on whose byte satisfies `p`, or the size if there
is none. -/
@[specialize] def nextWhere (p : UInt8 → Bool) (bytes : ByteArray) (i : Nat) : Nat :=
  if h : i < bytes.size then
    if p bytes[i] then i else nextWhere p bytes (i + 1)
  else bytes.size
termination_by bytes.size - i

theorem nextWhere_le (p : UInt8 → Bool) (bytes : ByteArray) (i : Nat) :
    nextWhere p bytes i ≤ bytes.size := by
  fun_induction nextWhere p bytes i <;> omega

theorem le_nextWhere (p : UInt8 → Bool) (bytes : ByteArray) (i : Nat) (hi : i ≤ bytes.size) :
    i ≤ nextWhere p bytes i := by
  fun_induction nextWhere p bytes i <;> omega

theorem nextWhere_lt {p : UInt8 → Bool} {bytes : ByteArray} {i : Nat} (hi : i < bytes.size)
    (hp : p bytes[i] = false) : i < nextWhere p bytes i := by
  rw [nextWhere, dif_pos hi, hp]
  exact le_nextWhere p bytes (i + 1) hi

theorem holds_nextWhere {p : UInt8 → Bool} {bytes : ByteArray} {i : Nat}
    (h : nextWhere p bytes i < bytes.size) : p bytes[nextWhere p bytes i] = true := by
  fun_induction nextWhere p bytes i with
  | case1 i hi hp => exact hp
  | case2 i hi hp ih => exact ih h
  | case3 i hi => omega

/-- The runs from `i` on, after those in `found`, which are in reverse. -/
def runsFrom (bytes : ByteArray) (i : Nat) (found : List Span) : List Span :=
  let start := nextWhere (· != 0) bytes i
  if _h : start < bytes.size then
    let stop := nextWhere (· == 0) bytes start
    runsFrom bytes stop (⟨start, stop⟩ :: found)
  else found.reverse
termination_by bytes.size - i
decreasing_by
  have hi : i ≤ bytes.size := by
    apply Decidable.byContradiction
    intro hi
    have : nextWhere (· != 0) bytes i = bytes.size := by rw [nextWhere, dif_neg (by omega)]
    omega
  have h₁ : i ≤ start := le_nextWhere (· != 0) bytes i hi
  have h₂ : start < stop := by
    apply nextWhere_lt _h
    have := holds_nextWhere (p := (· != 0)) _h
    simpa using this
  show bytes.size - stop < bytes.size - i
  omega

def nonZeroRuns (bytes : ByteArray) : List Span := runsFrom bytes 0 []

end Bytes
end EngineHost
