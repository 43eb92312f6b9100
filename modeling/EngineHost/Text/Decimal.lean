/-
Signed decimal numbers.  Writing gives the digits without padding and a minus
sign for negatives only.  Reading is wider: one optional sign of either kind,
leading zeros, and at least one digit, as long as the value fits in 64 bits.
-/
namespace EngineHost
namespace Text
namespace Decimal

def write (n : Int) : String :=
  if n < 0 then "-" ++ toString n.natAbs else toString n.natAbs

/-- The value of a non-empty run of ASCII digits. -/
def digits? (cs : List Char) : Option Nat :=
  if cs ≠ [] ∧ cs.all Char.isDigit then some (Nat.ofDigitChars 10 cs 0) else none

def signed? : List Char → Option Int
  | '-' :: cs => (digits? cs).map fun n => -(n : Int)
  | '+' :: cs => (digits? cs).map fun n => (n : Int)
  | cs => (digits? cs).map fun n => (n : Int)

/-- A signed number of 64 bits.  A value outside that range is refused, not
wrapped. -/
def int64? (text : String) : Option Int64 :=
  match signed? text.toList with
  | some n =>
    if Int64.minValue.toInt ≤ n ∧ n ≤ Int64.maxValue.toInt then some (Int64.ofInt n) else none
  | none => none

end Decimal
end Text
end EngineHost
