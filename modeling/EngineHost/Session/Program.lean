/-
Programs: what a callback does, as a tree.  A program asks questions of the
world it runs in and goes on with the answers, leaves notes on the way, and is
done with a value.  Every path through a program is finite.
-/
namespace EngineHost

inductive Program (Question Answer Note : Type) where
  | done (value : Int32)
  | ask (question : Question) (next : Answer → Program Question Answer Note)
  | note (what : Note) (next : Program Question Answer Note)

namespace Program

variable {Question Answer Note : Type}

/-- Run a program, given what asking and noting do. -/
def play {m : Type → Type} [Monad m] (ask : Question → m Answer) (note : Note → m Unit) :
    Program Question Answer Note → m Int32
  | .done value => pure value
  | .ask question next => do
    let a ← ask question
    play ask note (next a)
  | .note what next => do
    note what
    play ask note next

end Program

end EngineHost
