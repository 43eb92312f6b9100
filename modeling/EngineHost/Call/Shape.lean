import EngineHost.Call.Identity
/-
The shapes a host function can have, seen from the guest, and the raw calls
that reach the host.  A shape fixes the width and the number of the parameters
and whether there is a result.  Its counts leave out the marker.
-/
namespace EngineHost

inductive CallShape where
  /-- Narrow parameters and no result. -/
  | notify (arity : Nat)
  /-- Narrow parameters and a narrow result. -/
  | i32 (params : Nat)
  /-- Wide parameters and a narrow result. -/
  | i64 (params : Nat)
  deriving DecidableEq

/-- The three ways a call can come in. -/
inductive CallPath where
  | notify
  | i32
  | i64
  deriving DecidableEq

namespace CallShape

/-- A notification has between one and three parameters. -/
def notifyOf? (arity : Nat) : Option CallShape :=
  if 1 ≤ arity ∧ arity ≤ 3 then some (.notify arity) else none

def path : CallShape → CallPath
  | .notify _ => .notify
  | .i32 _ => .i32
  | .i64 _ => .i64

def paramCount : CallShape → Nat
  | .notify n | .i32 n | .i64 n => n

def isWide : CallShape → Bool
  | .i64 _ => true
  | _ => false

def returnsValue : CallShape → Bool
  | .notify _ => false
  | _ => true

def text : CallShape → String
  | .notify n => "notify(" ++ toString n ++ " x i32)"
  | .i32 n => "(" ++ toString n ++ " x i32) -> i32"
  | .i64 n => "(" ++ toString n ++ " x i64) -> i32"

/-- The structured form of a shape. -/
def debugText : CallShape → String
  | .notify n => "Notify \x7b arity: " ++ toString n ++ " \x7d"
  | .i32 n => "I32 \x7b params: " ++ toString n ++ " \x7d"
  | .i64 n => "I64 \x7b params: " ++ toString n ++ " \x7d"

end CallShape

namespace CallPath

/-- The shape of a call that took this path with `count` arguments. -/
def shape : CallPath → Nat → CallShape
  | .notify => .notify
  | .i32 => .i32
  | .i64 => .i64

/-- Whether entries on this path can serve imports of a shape.  Notifications
are held to their fixed arities. -/
def accepts (p : CallPath) (s : CallShape) : Bool :=
  match p, s with
  | .notify, .notify n => (CallShape.notifyOf? n).isSome
  | .i32, .i32 _ | .i64, .i64 _ => true
  | _, _ => false

def debugText : CallPath → String
  | .notify => "EntryPoint::Notify"
  | .i32 => "EntryPoint::I32"
  | .i64 => "EntryPoint::I64"

theorem shape_path (p : CallPath) (n : Nat) : (p.shape n).path = p := by
  cases p <;> rfl

theorem path_shape (s : CallShape) : s.path.shape s.paramCount = s := by
  cases s <;> rfl

end CallPath

def widen (args : List Int32) : List Int64 := args.map Int32.toInt64
def narrow (args : List Int64) : List Int32 := args.map Int64.toInt32

/-- A call as it arrives: the path it took, and every slot, the marker first if
it is there at all. -/
inductive RawCall where
  | notify (slots : List Int32)
  | i32 (slots : List Int32)
  | i64 (slots : List Int64)

namespace RawCall

def path : RawCall → CallPath
  | .notify _ => .notify
  | .i32 _ => .i32
  | .i64 _ => .i64

/-- All slots in the wide width. -/
def slots : RawCall → List Int64
  | .notify s | .i32 s => widen s
  | .i64 s => s

/-- The slots after the marker, in the wide width. -/
def args (c : RawCall) : List Int64 := c.slots.drop 1

/-- A call from narrow arguments.  A wide path takes them sign-extended. -/
def ofNarrow (id : EngineId) : CallPath → List Int32 → RawCall
  | .notify, args => .notify (id.narrowMarker :: args)
  | .i32, args => .i32 (id.narrowMarker :: args)
  | .i64, args => .i64 (id.wideMarker :: widen args)

/-- A call from wide arguments.  A narrow path truncates every slot, the marker
with them. -/
def ofWide (id : EngineId) : CallPath → List Int64 → RawCall
  | .notify, args => .notify (narrow (id.wideMarker :: args))
  | .i32, args => .i32 (narrow (id.wideMarker :: args))
  | .i64, args => .i64 (id.wideMarker :: args)

end RawCall

end EngineHost
