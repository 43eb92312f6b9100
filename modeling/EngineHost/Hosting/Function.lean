import EngineHost.Fault
/-
Host functions: a callback together with the shape it was declared with.  What
a callback produces is left open, since a dispatcher only has to find the right
callback and hand it the right arguments.
-/
namespace EngineHost

inductive HostFunction (ρ : Type) where
  | notify (arity : Nat) (fixed : 1 ≤ arity ∧ arity ≤ 3) (callback : List Int32 → ρ)
  | i32 (params : Nat) (callback : List Int32 → ρ)
  | i64 (params : Nat) (callback : List Int64 → ρ)

namespace HostFunction

variable {ρ : Type}

def shape : HostFunction ρ → CallShape
  | .notify arity _ _ => .notify arity
  | .i32 params _ => .i32 params
  | .i64 params _ => .i64 params

/-- A function of any shape from one callback on wide arguments.  There is none
if a notification has an arity out of range. -/
def ofShape? (s : CallShape) (callback : List Int64 → ρ) : Option (HostFunction ρ) :=
  match s with
  | .notify n =>
    if h : 1 ≤ n ∧ n ≤ 3 then some (.notify n h fun args => callback (widen args)) else none
  | .i32 n => some (.i32 n fun args => callback (widen args))
  | .i64 n => some (.i64 n callback)

def debugText (f : HostFunction ρ) : String := "HostFunction(" ++ f.shape.debugText ++ ")"

end HostFunction

end EngineHost
