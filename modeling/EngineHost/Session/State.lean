import EngineHost.Session.Op
/-
The state of a session: the foreign engines, the host's own directory and fault
handler, the handles a caller holds, a desk for directories of one's own, and
the events so far.

A handle holds no record.  It names an engine, and the one record of that
engine is in the host's directory, so whoever holds a handle on an engine sees
the same functions and the same subscriber.
-/
namespace EngineHost

/-- An engine, and the foreign engine through which it is driven. -/
structure Handle where
  id : EngineId
  foreign : Nat

/-- A record made at the desk.  Once it is filed, the name stands for the
record in the desk's directory. -/
inductive Draft where
  | loose (record : EngineRecord Callback)
  | filed (id : EngineId)

/-- A directory of one's own, with the records made for it. -/
structure Desk where
  directory : Directory Callback := {}
  drafts : Std.ExtTreeMap String Draft := ∅

structure Session where
  ids : IdSource := {}
  foreigns : Std.ExtTreeMap Nat Foreign := ∅
  directory : Directory Callback := {}
  /-- Is told of every fault on the host's side. -/
  handler : Option (BindingFault → Callback) := none
  handles : Std.ExtTreeMap String Handle := ∅
  desk : Desk := {}
  /-- The latest event first. -/
  events : List Event := []

/-- An action in a session. -/
abbrev Run := Turn Session

namespace Session

/-- The events so far, in the order they happened, and the session without
them. -/
def takeEvents (s : Session) : List Event × Session := (s.events.reverse, { s with events := [] })

/-- Put a foreign engine into the session. -/
def setForeign (s : Session) (index : Nat) (f : Foreign) : Session :=
  { s with foreigns := s.foreigns.insert index f }

end Session

/-- Where the foreign engine with this number is. -/
def foreignAt (index : Nat) : Place Session Foreign where
  get s := s.foreigns.getD index default
  set f s := s.setForeign index f
  get_set f s := by simp [Session.setForeign]
  set_set f g s := by
    simp only [Session.setForeign, Session.mk.injEq, and_self, and_true, true_and]
    apply Std.ExtTreeMap.ext_getElem?
    intro k
    simp only [Std.ExtTreeMap.getElem?_insert]
    split <;> rfl

/-- Add an event. -/
def note (e : Event) : Run Unit := modify fun s => { s with events := e :: s.events }

/-- Change the host's directory. -/
def changeDirectory (f : Directory Callback → Directory Callback) : Run Unit :=
  modify fun s => { s with directory := f s.directory }

/-- Draw an identity for a new engine and create it in a foreign engine. -/
def createIn (index : Nat) : Run EngineId := fun s =>
  let (id, ids, f) := ((foreignAt index).get s).create s.ids
  some (id, { s with ids }.setForeign index f)

end EngineHost
