import EngineHost.Proofs.Session.Faultless
import EngineHost.Proofs.Session.Lines
import EngineHost.Proofs.Tracer.Moments
/-
Attended sessions.  A recorder handles the faults, every line leads to the
dispatcher, and the callbacks of the host do nothing on the host's side.  What
an import is bound to need not be registered, so calls may well end in a fault.

From here on an engine shows the handler a fault if it fails with one, and
nothing otherwise.  A fault comes up in the dispatcher, once, and ends the run
of the guest in which it came up.  All the rest passes it on.
-/
namespace EngineHost

/-! ## What the handler is shown -/

def Event.reported? : Event → Option BindingFault
  | .reported cause => some cause
  | _ => none

/-- Marks what it is shown, and does nothing else. -/
def recorder (cause : BindingFault) : Callback := .note (.reported cause) (.done 0)

/-- What the handler was shown so far. -/
def Session.reports (s : Session) : List BindingFault := s.events.reverse.filterMap Event.reported?

theorem Session.reports_cons {s : Session} {e : Event} :
    Session.reports { s with events := e :: s.events } = s.reports ++ e.reported?.toList := by
  unfold reports
  rw [List.reverse_cons, List.filterMap_append]
  congr 1

/-- The fault that an engine's error carries. -/
def EngineError.fault? : EngineError → Option BindingFault
  | .fault cause => some cause
  | _ => none

theorem EngineError.Own.fault? {e : EngineError} (h : e.Own) : e.fault? = none := by
  cases e with
  | fault cause => exact absurd rfl (h cause)
  | _ => rfl

theorem HostError.fault?_ofEngine {e : EngineError} : (ofEngine e).fault? = e.fault? := by
  cases e <;> rfl

/-- The faults in a result, of which there is one at most. -/
def faultsIn {ε α : Type} (fault? : ε → Option BindingFault) : Except ε α → List BindingFault
  | .ok _ => []
  | .error e => (fault? e).toList

/-! ## Quiet callbacks -/

/-- Operations that neither run anything nor reach the host, and that lead new
lines to the dispatcher only. -/
def Op.Aside : Op → Prop
  | .foreign _ .create | .foreign _ (.install _ _) | .foreign _ .config => True
  | .foreign _ (.bind _ _ b) => b.entry.target = .dispatcher
  | .foreign _ (.listen _ entry) => entry = .dispatcher
  | .scripted _ (.call _ _ _) | .scripted _ (.emit _ _) => False
  | .scripted _ _ => True
  | _ => False

/-- A callback that keeps to foreign engines, where it only looks and arranges,
and leaves the handler's marks to the handler. -/
inductive Callback.Quiet : Callback → Prop where
  | done (value : Int32) : Callback.Quiet (.done value)
  | ask {q : Op} {next : Answer → Callback} (hq : q.Aside)
      (hnext : ∀ a, Callback.Quiet (next a)) : Callback.Quiet (.ask q next)
  | note {what : Event} {next : Callback} (hwhat : what.reported? = none)
      (hnext : Callback.Quiet next) : Callback.Quiet (.note what next)

/-- Operations on engines that leave the handler alone and lead new lines to the
dispatcher only. -/
def Op.Reserved : Op → Prop
  | .foreign _ (.bind _ _ b) => b.entry.target = .dispatcher
  | .foreign _ (.listen _ entry) => entry = .dispatcher
  | .desk _ | .setHandler _ | .clearHandler => False
  | _ => True

theorem Op.Aside.reserved {op : Op} (h : op.Aside) : op.Reserved := by
  cases op with
  | foreign index op => cases op <;> first | exact trivial | exact h
  | scripted index op => exact trivial
  | handle | desk | executeBinary | enter | deliver | filed | setHandler | clearHandler => cases h

theorem Op.Aside.not_brings {op : Op} {c : Callback} (h : op.Aside) : ¬ op.Brings c := by
  intro hbrings
  cases hbrings <;> cases h

/-- The discipline of such operations, with quiet callbacks. -/
def reserved : Discipline where
  op o := o.Reserved ∧ ∀ c, o.Brings c → c.Quiet
  callback := Callback.Quiet
  brings h hbrings := h.2 _ hbrings
  asks := by
    intro q next h
    cases h with
    | ask hq hnext => exact ⟨⟨hq.reserved, fun c hc => absurd hc hq.not_brings⟩, hnext⟩
  notes := by
    intro what next h
    cases h with
    | note _ hnext => exact hnext

/-! ## Lines to the dispatcher -/

/-- Every line leads to the dispatcher. -/
structure Lines.Dispatched (l : Lines) : Prop where
  bindings : ∀ (name : String) (b : Binding), l.bindings[name]? = some b →
    b.entry.target = .dispatcher
  listener : ∀ entry, l.listener = some entry → entry = .dispatcher

theorem Lines.dispatched_empty : ({} : Lines).Dispatched := by
  constructor
  · intro name b hb
    rw [Std.ExtTreeMap.getElem?_empty] at hb
    cases hb
  · intro _ heq
    cases heq

def Foreign.Dispatched (f : Foreign) : Prop := ∀ id l, f.lines? id = some l → l.Dispatched

namespace Foreign.Dispatched

variable {f g : Foreign} {id : EngineId}

/-- A foreign engine with other lines at one engine only. -/
theorem of_lines? {l : Lines} (h : f.Dispatched) (hl : l.Dispatched)
    (hlines : ∀ k, g.lines? k = if id = k then some l else f.lines? k) : g.Dispatched := by
  intro k l' hl'
  rw [hlines] at hl'
  split at hl'
  case isTrue =>
    cases hl'
    exact hl
  case isFalse => exact h k l' hl'

theorem of_same (h : f.Dispatched) (hlines : ∀ k, g.lines? k = f.lines? k) : g.Dispatched :=
  fun k l hl => h k l (hlines k ▸ hl)

theorem scripted_adjust {e : Scripted} (h : f.Dispatched) (he : f.scripted? = some e)
    (id : EngineId) (change : ScriptedSlot → ScriptedSlot)
    (hsame : ∀ slot, (change slot).bindings = slot.bindings ∧ (change slot).listener = slot.listener) :
    (f.withScripted (e.adjust id change)).Dispatched :=
  h.of_same (lines?_scripted he hsame)

theorem create {ids ids' : IdSource} (h : f.Dispatched) (hcreate : f.create ids = (id, ids', g)) :
    g.Dispatched := by
  rcases lines?_create hcreate with hlines | rfl
  · exact h.of_lines? Lines.dispatched_empty hlines
  · exact h

theorem bind {name : String} {b : Binding} (h : f.Dispatched)
    (hb : b.entry.target = .dispatcher) (hbind : f.bind? id name b = some g) : g.Dispatched := by
  obtain ⟨old, hold, hlines⟩ := lines?_bind hbind
  refine h.of_lines? ?_ hlines
  refine ⟨fun k b' hb' => ?_, (h id old hold).listener⟩
  rw [Std.ExtTreeMap.getElem?_insert] at hb'
  split at hb'
  · cases hb'
    exact hb
  · exact (h id old hold).bindings k b' hb'

theorem listen (h : f.Dispatched) (hlisten : f.listen? id .dispatcher = some g) :
    g.Dispatched := by
  obtain ⟨old, hold, hlines⟩ := lines?_listen hlisten
  refine h.of_lines? ?_ hlines
  refine ⟨(h id old hold).bindings, ?_⟩
  intro _ heq
  cases heq
  rfl

end Foreign.Dispatched

/-! ## Attended sessions -/

structure Session.Attended (s : Session) : Prop where
  handler : s.handler = some recorder
  directory : s.directory.Kept reserved
  foreigns : ∀ index, ((foreignAt index).get s).Dispatched

namespace Session.Attended

variable {s : Session}

theorem setForeign (h : s.Attended) {index : Nat} {g : Foreign} (hg : g.Dispatched) :
    (s.setForeign index g).Attended := by
  refine ⟨h.handler, h.directory, fun k => ?_⟩
  rw [foreign_get_setForeign]
  split
  · exact hg
  · exact h.foreigns k

theorem setSlotAt (h : s.Attended) {site : Site} {slot old : TracerSlot}
    (hold : s.slotAt? site = some old) (hsame : slot.lines = old.lines) :
    (s.setSlotAt site slot).Attended := by
  have htracer := tracerAt?_eq_some_iff.1 (tracerAt?_of_slotAt? hold)
  refine h.setForeign ((h.foreigns site.foreign).of_same fun k => ?_)
  rw [htracer]
  exact Tracer.lines_setSlot (slotAt?_eq_some_iff.1 hold) hsame

theorem withEvents (h : s.Attended) (events : List Event) : { s with events }.Attended :=
  ⟨h.handler, h.directory, h.foreigns⟩

theorem withDirectory (h : s.Attended) {directory : Directory Callback}
    (hkept : directory.Kept reserved) : { s with directory }.Attended :=
  ⟨h.handler, hkept, h.foreigns⟩

theorem withSubscriber (h : s.Attended) (id : EngineId) (subscriber : Option (String → Callback))
    (hquiet : ∀ f, subscriber = some f → ∀ item, (f item).Quiet) :
    { s with directory := s.directory.adjust id ({ · with subscriber }) }.Attended :=
  h.withDirectory (h.directory.adjust fun _ hr => hr.subscribe hquiet)

end Session.Attended

/-! ## Actions -/

/-- From `s` on, the handler is shown nothing. -/
def Silent {α : Type} (s : Session) (a : Run α) : Prop :=
  Follows s a a fun _ t => t.Attended ∧ t.reports = s.reports

/-- From `s` on, the handler is shown the fault that the action ends with, if it
does. -/
def Told {ε α : Type} (fault? : ε → Option BindingFault) (s : Session) (a : Run (Except ε α)) :
    Prop :=
  Follows s a a fun r t => t.Attended ∧ t.reports = s.reports ++ faultsIn fault? r

section

variable {ε α β : Type} {fault? : ε → Option BindingFault} {s : Session}

namespace Silent

theorem pure (hs : s.Attended) {x : α} : Silent s (pure x) := Follows.pure ⟨hs, rfl⟩

theorem change {a : Run α} {x : α} {t : Session} (ha : a s = some (x, t)) (ht : t.Attended)
    (hreports : t.reports = s.reports) : Silent s a := Follows.self ha ⟨ht, hreports⟩

theorem bind {a : Run α} {f : α → Run β} (ha : Silent s a)
    (hf : ∀ x t, t.Attended → Silent t (f x)) : Silent s (a >>= f) := by
  refine Follows.bind ha fun x t ht => ?_
  refine (hf x t ht.1).weaken fun _ u hu => ?_
  exact ⟨hu.1, hu.2.trans ht.2⟩

theorem bind_told {a : Run α} {f : α → Run (Except ε β)} (ha : Silent s a)
    (hf : ∀ x t, t.Attended → Told fault? t (f x)) : Told fault? s (a >>= f) := by
  refine Follows.bind ha fun x t ht => ?_
  refine (hf x t ht.1).weaken fun r u hu => ?_
  exact ⟨hu.1, hu.2.trans (congrArg (· ++ _) ht.2)⟩

theorem lift_bind {a : Run α} {f : α → ExceptT ε Run β} (ha : Silent s a)
    (hf : ∀ x t, t.Attended → Told fault? t (f x).run) :
    Told fault? s ((liftM a : ExceptT ε Run α) >>= f).run := by
  rw [Turn.run_lift_bind]
  exact ha.bind_told hf

end Silent

namespace Told

theorem ok (hs : s.Attended) {x : α} :
    Told fault? s (Pure.pure (Except.ok x) : Run (Except ε α)) :=
  Follows.pure ⟨hs, (List.append_nil _).symm⟩

theorem error (hs : s.Attended) {e : ε} (he : fault? e = none) :
    Told fault? s (Pure.pure (Except.error e) : Run (Except ε α)) := by
  refine Follows.pure ⟨hs, ?_⟩
  rw [faultsIn, he, Option.toList_none, List.append_nil]

/-- A result that carries no fault, and a handler that was shown none. -/
theorem quietly {a : Run (Except ε α)} {r : Except ε α} {t : Session} (ha : a s = some (r, t))
    (ht : t.Attended) (hreports : t.reports = s.reports) (hr : faultsIn fault? r = []) :
    Told fault? s a :=
  Follows.self ha ⟨ht, by rw [hr, List.append_nil, hreports]⟩

theorem bind {a : ExceptT ε Run α} {f : α → ExceptT ε Run β} (ha : Told fault? s a.run)
    (hf : ∀ x t, t.Attended → Told fault? t (f x).run) : Told fault? s (a >>= f).run := by
  refine Follows.run_bind ha (fun _ _ ht => ht) fun x t ht => ?_
  refine (hf x t ht.1).weaken fun r u hu => ?_
  refine ⟨hu.1, ?_⟩
  rw [hu.2, ht.2, faultsIn, List.append_nil]

theorem ofExcept {r : Except EngineError α} (hs : s.Attended) (hr : ∀ e, r = .error e → e.Own) :
    Told EngineError.fault? s (Attempt.ofExcept r).run := by
  cases r with
  | error e => exact error hs (hr e rfl).fault?
  | ok x => exact ok hs

theorem ofExcept_bind {r : Except EngineError α} {f : α → Attempt Session β} (hs : s.Attended)
    (hr : ∀ e, r = .error e → e.Own) (hf : ∀ x, r = .ok x → Told EngineError.fault? s (f x).run) :
    Told EngineError.fault? s (Attempt.ofExcept r >>= f).run := by
  cases r with
  | error e => exact error hs (hr e rfl).fault?
  | ok x => exact hf x rfl

end Told

/-! ## Callbacks -/

/-- A way of running callbacks under which a quiet one shows the handler
nothing. -/
structure Attends (go : Callback → Run Int32) : Prop where
  quiet : ∀ {s c}, s.Attended → c.Quiet → Silent s (go c)
  recorder : ∀ cause s,
    go (recorder cause) s = some (0, { s with events := .reported cause :: s.events })

theorem attends_play {ask : Op → Run Answer}
    (hask : ∀ {q s}, s.Attended → q.Aside → Silent s (ask q)) :
    Attends (Program.play ask note) := by
  refine ⟨fun {s c} hs hc => ?_, fun _ _ => rfl⟩
  induction hc generalizing s with
  | done value => exact .pure hs
  | ask hq _ ih => exact (hask hs hq).bind fun a t ht => ih a ht
  | @note what next hwhat _ ih =>
    have hnote : Silent s (note what) := by
      refine .change rfl (hs.withEvents (what :: s.events)) ?_
      rw [Session.reports_cons, hwhat, Option.toList_none, List.append_nil]
    exact hnote.bind fun _ t ht => ih ht

end

section

variable {go : Callback → Run Int32} (hgo : Attends go) {s : Session} (hs : s.Attended)

include hgo hs

theorem raise_eq (cause : BindingFault) :
    raise go cause s = some ((), { s with events := .reported cause :: s.events }) := by
  have hraise : raise go cause s = (do let _ ← go (recorder cause) : Run Unit) s := by
    unfold raise
    rw [Turn.get_bind, hs.handler]
  rw [hraise]
  exact Turn.bind_eq_of_eq_some (hgo.recorder cause s)

omit hs in
theorem reporting_told {α : Type} {a : Run (Except BindingFault α)} (ha : Silent s a) :
    Told some s (reporting go a) := by
  unfold reporting
  refine Follows.bind ha fun answer t ht => ?_
  obtain ⟨hattended, hreports⟩ := ht
  cases answer with
  | ok x => exact Follows.pure ⟨hattended, hreports.trans (List.append_nil _).symm⟩
  | error cause =>
    refine Follows.step (raise_eq hgo hattended cause) ?_
    refine Follows.pure ⟨hattended.withEvents _, ?_⟩
    rw [Session.reports_cons, hreports]
    rfl

theorem runCall_silent {dir : Directory Callback} (hdir : dir.Kept reserved) (id : EngineId)
    (name : String) (call : RawCall) : Silent s (runCall go dir id name call) := by
  unfold runCall
  cases hresolve : dir.resolve id name call with
  | error cause => exact .pure hs
  | ok c => exact (hgo.quiet hs (hdir.resolve hresolve)).bind fun _ _ ht => .pure ht

theorem runItem_silent {dir : Directory Callback} (hdir : dir.Kept reserved) (id : EngineId)
    (item : ByteArray) : Silent s (runItem go dir id item) := by
  unfold runItem
  split
  case h_1 => exact .pure hs
  case h_2 => exact .pure hs
  case h_3 c hresolve =>
    exact (hgo.quiet hs (hdir.resolveItem hresolve)).bind fun _ _ ht => .pure ht

theorem dispatchCall_told (id : EngineId) (name : String) (call : RawCall) :
    Told some s (dispatchCall go id name call) :=
  reporting_told hgo (Follows.step rfl (runCall_silent hgo hs hs.directory id name call))

theorem dispatchItem_told (id : EngineId) (item : ByteArray) :
    Told some s (dispatchItem go id item) :=
  reporting_told hgo (Follows.step rfl (runItem_silent hgo hs hs.directory id item))

theorem enter_told {entry : EntryPoint} (hentry : entry.target = .dispatcher) (id : EngineId)
    (name : String) (call : RawCall) : Told some s ((sessionHost go).enter entry id name call) := by
  simp only [sessionHost, hentry]
  exact dispatchCall_told hgo hs id name call

theorem deliver_told {entry : LogEntry} (hentry : entry = .dispatcher) (id : EngineId)
    (item : ByteArray) : Told some s ((sessionHost go).deliver entry id item) := by
  subst hentry
  exact dispatchItem_told hgo hs id item

end

/-! ## Guests -/

/-- The fault that has stopped a guest. -/
def Stopped.fault? : Stopped → Option BindingFault
  | .faulted cause => some cause
  | _ => none

theorem Stopped.fault?_of_status? {why : Stopped} {status : Option TraceStatus}
    (h : why.status? = .ok status) : why.fault? = none := by
  cases why with
  | faulted cause => cases h
  | _ => rfl

/-- The lines that a plan was made with. -/
def Plan.lines (plan : Plan) : Lines := ⟨plan.bindings, plan.listener⟩

section

variable {go : Callback → Run Int32} (hgo : Attends go) {plan : Plan}
  (hplan : plan.lines.Dispatched) {s t : Session}

include hgo hplan

/-- One call of a guest. -/
theorem Served.told {name : String} {b : Binding} (hb : b.entry.target = .dispatcher)
    {args : List Guest.Value} {trace trace' : Trace}
    {answer : Except BindingFault (List Guest.Value)} (hs : s.Attended)
    (h : Served (sessionHost go) plan name b args trace s answer trace' t) :
    t.Attended ∧ t.reports = s.reports ++ faultsIn some answer := by
  cases h with
  | refused hanswered => exact (enter_told hgo hs hb _ _ _ _ _ hanswered).2
  | @unheard value entry cause u _ hanswered hlistener hdeliver =>
    obtain ⟨-, hu, hentered⟩ := enter_told hgo hs hb _ _ _ _ _ hanswered
    have hentry : entry = .dispatcher := hplan.listener entry hlistener
    obtain ⟨-, ht, hdelivered⟩ := deliver_told hgo hu hentry _ _ _ _ hdeliver
    refine ⟨ht, ?_⟩
    rw [hdelivered, hentered, faultsIn, List.append_nil]
    rfl
  | @heard value u _ hanswered hheard =>
    obtain ⟨-, hu, hentered⟩ := enter_told hgo hs hb _ _ _ _ _ hanswered
    cases hheard with
    | unarmed => exact ⟨hu, hentered⟩
    | @armed entry _ _ hlistener hdeliver =>
      have hentry : entry = .dispatcher := hplan.listener entry hlistener
      obtain ⟨-, ht, hdelivered⟩ := deliver_told hgo hu hentry _ _ _ _ hdeliver
      refine ⟨ht, ?_⟩
      rw [hdelivered, hentered, faultsIn, List.append_nil]
      rfl

variable {env : Guest.Env} {config : TracerConfig} {linked : List Linked}
  (hlinked : ∀ l ∈ linked, l.MadeFrom config plan.bindings)

omit hgo in
include hlinked in
theorem bound_dispatched {index : Nat} {l : Linked} {b : Binding} (hl : linked[index]? = some l)
    (hbound : l.definition = .bound b) : b.entry.target = .dispatcher := by
  cases hlinked l (List.mem_of_getElem? hl) with
  | halting => cases hbound
  | bound hb =>
    cases hbound
    exact hplan.bindings _ b hb

include hlinked

theorem Moves.silent {x y : Moment Session} (h : Moves (sessionHost go) plan env linked x y)
    (hx : x.world.Attended) : y.world.Attended ∧ y.world.reports = x.world.reports := by
  cases h with
  | inside => exact ⟨hx, rfl⟩
  | served m hl hbound hserved =>
    obtain ⟨hy, hreports⟩ := hserved.told hgo hplan (bound_dispatched hplan hlinked hl hbound) hx
    exact ⟨hy, hreports.trans (List.append_nil _)⟩

theorem Stops.told {x : Moment Session} {stage : Stage}
    (h : Stops (sessionHost go) plan linked x stage t) (hx : x.world.Attended) :
    t.Attended ∧ t.reports = x.world.reports ++ stage.why.fault?.toList := by
  cases h with
  | ended how => cases how <;> exact ⟨hx, (List.append_nil _).symm⟩
  | unlinked | halted => exact ⟨hx, (List.append_nil _).symm⟩
  | faulted m hl hbound hserved =>
    exact hserved.told hgo hplan (bound_dispatched hplan hlinked hl hbound) hx

theorem Runs.told {x : Moment Session} {stage : Stage}
    (h : Runs (sessionHost go) plan env linked x stage t) (hx : x.world.Attended) :
    t.Attended ∧ t.reports = x.world.reports ++ stage.why.fault?.toList := by
  obtain ⟨y, hmoves, hstops⟩ := h
  induction hmoves using Relation.ReflTransGen.head_induction_on with
  | refl => exact hstops.told hgo hplan hlinked hx
  | head hmove _ ih =>
    obtain ⟨hnext, hreports⟩ := hmove.silent hgo hplan hlinked hx
    rw [← hreports]
    exact ih hnext

theorem instantiate_told {budget : Nat} {stage : Stage} (hs : s.Attended)
    (h : instantiate budget (sessionHost go) config plan linked s = some (stage, t)) :
    t.Attended ∧ t.reports = s.reports ++ stage.why.fault?.toList := by
  rcases instantiate_eq_some_iff.1 h with ⟨_, rfl, rfl⟩ |
    ⟨memory, _, ⟨_, rfl, rfl⟩ | ⟨f, _, hrun⟩⟩
  · exact ⟨hs, (List.append_nil _).symm⟩
  · exact ⟨hs, (List.append_nil _).symm⟩
  · exact (runGuest_runs hrun).told hgo hplan hlinked hs

end

/-! ## Executions -/

section

variable {go : Callback → Run Int32} (hgo : Attends go) {plan : Plan}
  (hplan : plan.lines.Dispatched) {s : Session} (hs : s.Attended) (budget : Nat)
  (config : TracerConfig)

include hgo hplan hs

/-- Carrying out a plan ends with the fault of a guest that was stopped by one. -/
theorem carryOut_told :
    Told EngineError.fault? s (carryOut budget (sessionHost go) config plan).run := by
  intro r u hrun
  refine ⟨hrun, ?_⟩
  -- Whatever comes before the entry export runs, the start function has returned.
  have hready {linked : List Linked} {stage : Stage} {t : Session}
      (hlink : link config plan.bindings plan.module = .ok linked)
      (hstart : instantiate budget (sessionHost go) config plan linked s = some (stage, t))
      (hwhy : stage.why.fault? = none) : t.Attended ∧ t.reports = s.reports := by
    obtain ⟨ht, hreports⟩ := instantiate_told hgo hplan (link_eq_ok hlink).1 hs hstart
    rw [hwhy, Option.toList_none, List.append_nil] at hreports
    exact ⟨ht, hreports⟩
  cases carryOut_eq_some_iff.1 hrun with
  | unlinked hlink =>
    obtain ⟨reason, rfl⟩ := link_error hlink
    exact ⟨hs, (List.append_nil _).symm⟩
  | stoppedEarly hlink hstart hstatus =>
    obtain ⟨hu, hreports⟩ := hready hlink hstart (Stopped.fault?_of_status? hstatus)
    exact ⟨hu, hreports.trans (List.append_nil _).symm⟩
  | faultedEarly hlink hstart hfault =>
    obtain ⟨hu, hreports⟩ := instantiate_told hgo hplan (link_eq_ok hlink).1 hs hstart
    rw [hfault] at hreports
    exact ⟨hu, hreports⟩
  | unready hlink hstart hreturned hprepared =>
    obtain ⟨hu, hreports⟩ := hready hlink hstart (by rw [hreturned]; rfl)
    obtain ⟨⟨_, _, _, rfl⟩, _⟩ := prepareMemory_error hprepared
    exact ⟨hu, hreports.trans (List.append_nil _).symm⟩
  | noEntry hlink hstart hreturned =>
    obtain ⟨hu, hreports⟩ := hready hlink hstart (by rw [hreturned]; rfl)
    exact ⟨hu, hreports.trans (List.append_nil _).symm⟩
  | faulted hlink hstart hreturned _ _ hentered hfault =>
    obtain ⟨ht, hbefore⟩ := hready hlink hstart (by rw [hreturned]; rfl)
    obtain ⟨hu, hreports⟩ := (runGuest_runs hentered).told hgo hplan (link_eq_ok hlink).1 ht
    rw [hfault, hbefore] at hreports
    exact ⟨hu, hreports⟩
  | finished hlink hstart hreturned _ _ hentered hstatus =>
    obtain ⟨ht, hbefore⟩ := hready hlink hstart (by rw [hreturned]; rfl)
    obtain ⟨hu, hreports⟩ := (runGuest_runs hentered).told hgo hplan (link_eq_ok hlink).1 ht
    rw [Stopped.fault?_of_status? hstatus, hbefore] at hreports
    exact ⟨hu, hreports⟩

theorem initialMemory_told :
    Told EngineError.fault? s (initialMemory budget (sessionHost go) config plan).run := by
  intro r u hrun
  refine ⟨hrun, ?_⟩
  rcases initialMemory_eq_some hrun with ⟨e, hlink, rfl, rfl⟩ | ⟨linked, stage, hlink, hstart, hr⟩
  · obtain ⟨reason, rfl⟩ := link_error hlink
    exact ⟨hs, (List.append_nil _).symm⟩
  obtain ⟨hu, hreports⟩ := instantiate_told hgo hplan (link_eq_ok hlink).1 hs hstart
  refine ⟨hu, ?_⟩
  rcases hr with ⟨cause, hfault, rfl⟩ | ⟨status, hstatus, rfl⟩ | ⟨hreturned, rfl⟩
  · rw [hreports, hfault]
    rfl
  · rw [hreports, Stopped.fault?_of_status? hstatus]
    rfl
  · rw [hreports, hreturned]
    rfl

end

end EngineHost
