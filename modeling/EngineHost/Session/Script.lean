import EngineHost.Session.Perform
/-
Scripted callbacks.  A script marks that it was called, takes its steps one
after the other, marks each answer, and gives back a value.  A step is an
operation that may depend on the arguments of the call.
-/
namespace EngineHost

/-- A number inside a step. -/
inductive Slot where
  | const (value : Int64)
  /-- An argument of the call, counted from 0. -/
  | argument (index : Nat)
  /-- One less than an argument.  It wraps. -/
  | predecessor (index : Nat)

/-- The value of a slot.  An argument that is not there counts as 0. -/
def Slot.fill (args : List Int64) : Slot → Int64
  | .const value => value
  | .argument index => args.getD index 0
  | .predecessor index => args.getD index 0 - 1

abbrev ScriptStep := List Int64 → Op

/-- What a script gives back. -/
inductive ScriptResult where
  | value (value : Int32)
  /-- The wrapping sum of the arguments, truncated. -/
  | sum
  /-- How many arguments there are. -/
  | count
  /-- The first argument, truncated, or -1. -/
  | first
  /-- The answer to the last step if it is a number, or -1. -/
  | last

structure Script where
  tag : String
  /-- Whether the steps are skipped unless the first argument is positive. -/
  onlyPositive : Bool := false
  steps : List ScriptStep := []
  result : ScriptResult := .value 0

/-- An answer as a number, if it is one. -/
def Answer.number? : Answer → Option Int32
  | .number n => some n
  | .id engine => some engine.val.toInt32
  | _ => none

namespace ScriptResult

def compute (args : List Int64) (last : Option Answer) : ScriptResult → Int32
  | .value v => v
  | .sum => (args.foldl (· + ·) 0).toInt32
  | .count => Int32.ofNat args.length
  | .first => (args.head?.map Int64.toInt32).getD (-1)
  | .last => (last.bind Answer.number?).getD (-1)

end ScriptResult

/-- Take steps in order.  `last` is the answer to the step before. -/
def takeSteps (args : List Int64) (last : Option Answer) (finish : Option Answer → Callback) :
    List ScriptStep → Callback
  | [] => finish last
  | step :: rest => .ask (step args) fun answer =>
    .note (.answered answer) (takeSteps args (some answer) finish rest)

namespace Script

def skips (s : Script) (args : List Int64) : Bool :=
  s.onlyPositive && !args.head?.any (0 < ·)

/-- The script as the callback of a host function. -/
def onArgs (s : Script) (args : List Int64) : Callback :=
  .note (.called s.tag args) <|
    takeSteps args none (fun last => .done (s.result.compute args last))
      (if s.skips args then [] else s.steps)

/-- The script as a host function of some shape. -/
def function? (s : Script) (shape : CallShape) : Option (HostFunction Callback) :=
  HostFunction.ofShape? shape s.onArgs

/-- The script as a subscriber. -/
def onItem (s : Script) (item : String) : Callback :=
  .note (.logged s.tag item) (takeSteps [] none (fun _ => .done 0) s.steps)

/-- The script as a fault handler. -/
def onFault (s : Script) (cause : BindingFault) : Callback :=
  .note (.reported cause) (takeSteps [] none (fun _ => .done 0) s.steps)

end Script

end EngineHost
