import Std.Data.ExtTreeMap
/-
Engine identities.  An identity is a 32-bit number, and every raw call carries
it once more as a marker in front of the arguments, in the width of those
arguments.
-/
namespace EngineHost

structure EngineId where
  val : UInt32
  deriving DecidableEq

namespace EngineId

instance : Ord EngineId := ⟨fun a b => compare a.val b.val⟩

theorem compare_eq (a b : EngineId) : compare a b = compare a.val b.val := rfl

instance : Std.TransOrd EngineId where
  eq_swap := Std.OrientedOrd.eq_swap (α := UInt32)
  isLE_trans := Std.TransOrd.isLE_trans (α := UInt32)

instance : Std.LawfulEqOrd EngineId where
  compare_self := Std.ReflOrd.compare_self (α := UInt32)
  eq_of_compare {a b} h := by
    cases a; cases b
    exact congrArg EngineId.mk (Std.LawfulEqOrd.eq_of_compare (α := UInt32) h)

def text (id : EngineId) : String := toString id.val.toNat

/-- The structured form of an identity, as it appears inside records. -/
def debugText (id : EngineId) : String := "EngineId(" ++ id.text ++ ")"

/-- The marker of a narrow call: the same 32 bits, read as a signed number. -/
def narrowMarker (id : EngineId) : Int32 := id.val.toInt32

/-- The marker of a wide call: the number itself, never negative. -/
def wideMarker (id : EngineId) : Int64 := id.val.toUInt64.toInt64

theorem narrowMarker_inj {a b : EngineId} (h : a.narrowMarker = b.narrowMarker) : a = b := by
  cases a; cases b
  simpa [narrowMarker] using congrArg Int32.toUInt32 h

end EngineId

/-- Tables keyed by identity, ordered by it. -/
abbrev EngineTable (α : Type) := Std.ExtTreeMap EngineId α

/-- Where identities come from.  One source serves every engine, so two engines
have the same identity only after all the others have been handed out. -/
structure IdSource where
  next : UInt32 := 1

namespace IdSource

/-- Hand out an identity.  The number after the largest is 0. -/
def draw (s : IdSource) : EngineId × IdSource := (⟨s.next⟩, ⟨s.next + 1⟩)

end IdSource

end EngineHost
