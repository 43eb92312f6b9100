import EngineHost.Session.Desk
import EngineHost.Session.Handle
/-
Performing operations.  An operation may run guests and callbacks, callbacks
perform operations in turn, and so on.  Two budgets keep this finite: the
number of steps that a guest may take in one run, and how deep operations may
be nested.  Within the budgets the answer does not depend on them, and beyond
them there is none.
-/
namespace EngineHost

/-- An operation's answer, or the host's error in its place. -/
def answerHosted {α : Type} (action : Hosted α) (answer : α → Answer) : Run Answer := do
  match ← action.run with
  | .ok a => return answer a
  | .error cause => return .hostError cause

/-- An operation's answer, or the engine's error in its place. -/
def answerAttempt {α : Type} (action : Attempt Session α) (answer : α → Answer) :
    Run Answer := do
  match ← action.run with
  | .ok a => return answer a
  | .error cause => return .engineError cause

/-- Do something with the foreign engine of this number, if there is one. -/
def withForeign (index : Nat) (f : Foreign → Run Answer) : Run Answer := do
  match (← get).foreigns[index]? with
  | some engine => f engine
  | none => return .noSuchName

/-- Do something with a handle, if there is one of this name. -/
def withHandle (name : String) (f : Handle → Run Answer) : Run Answer := do
  match (← get).handles[name]? with
  | some h => f h
  | none => return .noSuchName

/-- Give a handle a name.  A handle of that name before is forgotten. -/
def keepHandle (name : String) (h : Handle) : Run Unit :=
  modify fun s => { s with handles := s.handles.insert name h }

section

variable (budget : Nat) (go : Callback → Run Int32)

/-- Operations on a handle.  A handle that cannot be made leaves the name as it
was. -/
def handleOp (name : String) : HandleOp Callback → Run Answer
  | .create index => withForeign index fun _ =>
    answerHosted (do let h ← Handle.create go index; keepHandle name h; return h) (.id ·.id)
  | .attach index id => withForeign index fun _ =>
    answerHosted (do let h ← Handle.attach index id; keepHandle name h; return h) (.id ·.id)
  | .copy target => withHandle name fun h => do
    keepHandle target h
    return .nothing
  | .install binary => withHandle name fun h => answerHosted (h.install binary) fun _ => .ok
  | .compute => withHandle name fun h => answerHosted (h.compute budget go) .trace
  | .memory => withHandle name fun h => answerHosted (h.memory budget go) .memory
  | .read offset length => withHandle name fun h =>
    answerHosted (h.read budget go offset length) .bytes
  | .patch offset length data => withHandle name fun h =>
    answerHosted (h.patch budget go offset length data) fun _ => .ok
  | .register functionName function => withHandle name fun h =>
    answerHosted (h.register go functionName function) fun _ => .ok
  | .subscribe subscriber => withHandle name fun h =>
    answerHosted (h.subscribe go subscriber) fun _ => .ok
  | .unsubscribe => withHandle name fun h => answerHosted h.unsubscribe fun _ => .ok
  | .functions => withHandle name fun h => return .names (h.record (← get)).names
  | .debug => withHandle name fun h => return .text (h.record (← get)).view.handleDebugText

/-- Operations on a foreign engine, past the host. -/
def foreignOp (index : Nat) (op : ForeignOp) : Run Answer :=
  let here := foreignAt index
  withForeign index fun f =>
    match op with
    | .create => return .id (← createIn index)
    | .install id binary =>
      answerAttempt (do here.write (← .ofExcept (f.install id binary))) fun _ => .ok
    | .compute id => answerAttempt (Foreign.compute budget (sessionHost go) here id) .payload
    | .memory id => answerAttempt (Foreign.snapshot budget (sessionHost go) here id) .memory
    | .patch id offset length data =>
      answerAttempt (Foreign.patch budget (sessionHost go) here id offset length data) fun _ => .ok
    | .execute binary => answerAttempt (executeIn budget go index binary) .payload
    | .bind id name binding =>
      match f.bind? id name binding with
      | some f => do
        here.write f
        return .flag true
      | none => return .flag false
    | .listen id entry =>
      match f.listen? id entry with
      | some f => do
        here.write f
        return .flag true
      | none => return .flag false
    | .config => return (f.tracer?.map (Answer.config ·.config)).getD .noSuchName

/-- Operations that only a scripted engine has. -/
def scriptedOp (index : Nat) (op : ScriptedOp) : Run Answer :=
  let here := foreignAt index
  withForeign index fun f =>
    match f.scripted? with
    | none => return .noSuchName
    | some e =>
      match op with
      | .setOutput id payload => do
        here.write (f.withScripted (e.setOutput id payload))
        return .ok
      | .refuse id => do
        here.write (f.withScripted (e.refuse id))
        return .ok
      | .binary id => return .binary (e.binary? id)
      | .imports id => return .imports (e.imports id)
      | .armed id => return .flag (e.listener? id).isSome
      | .call id name call => do
        return .ofCall call.path (← e.call (sessionHost go) id name call)
      | .emit id item => do return .ofItem (← e.emit (sessionHost go) id item)

/-- One operation, given what running a callback means. -/
def perform : Op → Run Answer
  | .handle name op => handleOp budget go name op
  | .foreign index op => foreignOp budget go index op
  | .scripted index op => scriptedOp go index op
  | .desk op => deskOp go op
  | .executeBinary index binary => withForeign index fun _ =>
    answerHosted (do
      let payload ← .ofEngine (executeIn budget go index binary)
      ExceptT.mk (pure (TraceResult.decode payload))) .trace
  | .enter id name call => do return .ofCall call.path (← dispatchCall go id name call)
  | .deliver id item => do return .ofItem (← dispatchItem go id item)
  | .filed id => return .filed (((← get).directory.lookup id).map (·.view))
  | .setHandler handler => do
    modify ({ · with handler := some handler })
    return .ok
  | .clearHandler => do
    modify ({ · with handler := none })
    return .ok

end

/-- Perform an operation with callbacks nested less deep than `depth`. -/
def performWithin (budget : Nat) : Nat → Op → Run Answer
  | 0, _ => fun _ => none
  | depth + 1, op => perform budget (Program.play (performWithin budget depth) note) op

/-- Perform operations in order, each with its answer and the events that it
left behind. -/
def Session.transcript (budget depth : Nat) (s : Session) :
    List Op → Option (List (Answer × List Event))
  | [] => some []
  | op :: rest => do
    let (answer, s) ← performWithin budget depth op s
    let (events, s) := s.takeEvents
    return (answer, events) :: (← s.transcript budget depth rest)

end EngineHost
