import EngineHost.Proofs.Tracer.Carrying
import Mathlib.Logic.Relation
/-
Runs of a guest as chains of moments.  From one moment to the next the guest
takes a step, or one call of it is answered and heard.  A guest stops where its
code ends, where it calls a halting import, and where the host answers a call
or hears it with a fault.

Nothing here is bounded.  A run under a budget is a chain of moments, and every
chain that stops is such a run for a budget that is large enough.
-/
namespace EngineHost

/-- A guest about to take a step, the trace so far, and the world around it. -/
structure Moment (σ : Type) where
  step : Guest.Step
  trace : Trace
  world : σ

/-- What the guest gets for the value of an entry.  A notification gives
nothing. -/
def Binding.result? (b : Binding) (value : Int32) : Option Int32 :=
  if b.entry.path = .notify then none else some value

def resultValues (result : Option Int32) : List Guest.Value :=
  result.toList.map fun v => .i32 v.toUInt32

/-- A call as the next item of a trace. -/
def Trace.item (t : Trace) (name : String) (call : RawCall) (result : Option Int32) : HostCall :=
  { index := t.calls.length.toUInt32, name, args := call.args, result }

def Trace.extend (t : Trace) (item : HostCall) : Trace := { t with calls := t.calls ++ [item] }

section

variable {σ : Type} (host : Host σ) (plan : Plan)

/-- The listener has nothing to say against an item, or there is no listener. -/
inductive Heard (item : HostCall) : σ → σ → Prop where
  | unarmed (s : σ) (hnone : plan.listener = none) : Heard item s s
  | armed {entry : LogEntry} {s t : σ} (hlistener : plan.listener = some entry)
      (hdeliver : host.deliver entry plan.engine item.json.toUTF8 s = some (.ok (), t)) :
      Heard item s t

/-- The entry of a binding gives this answer to a guest's call. -/
def Answered (name : String) (b : Binding) (args : List Guest.Value) (s : σ)
    (answer : Except BindingFault Int32) (t : σ) : Prop :=
  host.enter b.entry plan.engine name (marshal plan.engine b.entry.path args) s = some (answer, t)

/-- The item under which a call goes into the trace. -/
def Binding.itemOf (b : Binding) (trace : Trace) (name : String) (args : List Guest.Value)
    (value : Int32) : HostCall :=
  trace.item name (marshal plan.engine b.entry.path args) (b.result? value)

/-- What serving a call of a bound import comes to.  The entry can answer with a
fault, or the listener can, once the call is in the trace. -/
inductive Served (name : String) (b : Binding) (args : List Guest.Value) (trace : Trace) (s : σ) :
    Except BindingFault (List Guest.Value) → Trace → σ → Prop where
  | refused {cause : BindingFault} {t : σ}
      (hanswered : Answered host plan name b args s (.error cause) t) :
      Served name b args trace s (.error cause) trace t
  | unheard {value : Int32} {entry : LogEntry} {cause : BindingFault} {t u : σ}
      (hanswered : Answered host plan name b args s (.ok value) t)
      (hlistener : plan.listener = some entry)
      (hdeliver : host.deliver entry plan.engine
        (b.itemOf plan trace name args value).json.toUTF8 t = some (.error cause, u)) :
      Served name b args trace s (.error cause)
        (trace.extend (b.itemOf plan trace name args value)) u
  | heard {value : Int32} {t u : σ} (hanswered : Answered host plan name b args s (.ok value) t)
      (hheard : Heard host plan (b.itemOf plan trace name args value) t u) :
      Served name b args trace s (.ok (resultValues (b.result? value)))
        (trace.extend (b.itemOf plan trace name args value)) u

variable (env : Guest.Env) (linked : List Linked)

inductive Moves : Moment σ → Moment σ → Prop where
  | inside (m : Guest.Machine) (trace : Trace) (s : σ) :
      Moves ⟨.next m, trace, s⟩ ⟨Guest.step env m, trace, s⟩
  | served {index : Nat} {args : List Guest.Value} (m : Guest.Machine) {trace trace' : Trace}
      {s t : σ} {l : Linked} {b : Binding} {results : List Guest.Value}
      (hl : linked[index]? = some l) (hbound : l.definition = .bound b)
      (hserved : Served host plan l.name b args trace s (.ok results) trace' t) :
      Moves ⟨.host index args m, trace, s⟩ ⟨.next (m.resume results), trace', t⟩

/-- Where and why a guest goes no further. -/
inductive Stops : Moment σ → Stage → σ → Prop where
  | ended (how : Guest.Ending) (m : Guest.Machine) (trace : Trace) (s : σ) :
      Stops ⟨.ended how m, trace, s⟩ ⟨.ofEnding how, m, trace⟩ s
  | unlinked {index : Nat} (args : List Guest.Value) (m : Guest.Machine) (trace : Trace) (s : σ)
      (hl : linked[index]? = none) : Stops ⟨.host index args m, trace, s⟩ ⟨.trapped, m, trace⟩ s
  | halted {index : Nat} (args : List Guest.Value) (m : Guest.Machine) (trace : Trace) (s : σ)
      {l : Linked} {halt : Halt} (hl : linked[index]? = some l)
      (hhalting : l.definition = .halting halt) :
      Stops ⟨.host index args m, trace, s⟩ ⟨.halted halt, m, trace⟩ s
  | faulted {index : Nat} {args : List Guest.Value} (m : Guest.Machine) {trace trace' : Trace}
      {s t : σ} {l : Linked} {b : Binding} {cause : BindingFault} (hl : linked[index]? = some l)
      (hbound : l.definition = .bound b)
      (hserved : Served host plan l.name b args trace s (.error cause) trace' t) :
      Stops ⟨.host index args m, trace, s⟩ ⟨.faulted cause, m, trace'⟩ t

/-- From a moment on the guest runs until it stops. -/
def Runs (x : Moment σ) (stage : Stage) (t : σ) : Prop :=
  ∃ y, Relation.ReflTransGen (Moves host plan env linked) x y ∧ Stops host plan linked y stage t

end

/-! ## Calls -/

section

variable {σ : Type} {host : Host σ} {plan : Plan} {env : Guest.Env} {linked : List Linked}
  {s t u : σ}

theorem recordCall_eq_some_iff {trace trace' : Trace} {name : String} {call : RawCall}
    {result : Option Int32} {shown : Except BindingFault Unit} :
    recordCall host plan trace name call.args result s = some ((shown, trace'), t) ↔
      trace' = trace.extend (trace.item name call result) ∧
        ((plan.listener = none ∧ shown = .ok () ∧ t = s) ∨
          ∃ entry, plan.listener = some entry ∧
            host.deliver entry plan.engine (trace.item name call result).json.toUTF8 s =
              some (shown, t)) := by
  unfold recordCall
  cases plan.listener with
  | none =>
    constructor
    · intro heq
      cases heq
      exact ⟨rfl, .inl ⟨rfl, rfl, rfl⟩⟩
    · intro hex
      obtain ⟨rfl, ⟨_, rfl, rfl⟩ | ⟨_, ⟨⟩, _⟩⟩ := hex
      rfl
  | some entry =>
    constructor
    · intro h
      obtain ⟨answer, u, hdeliver, ⟨⟩⟩ := Turn.bind_eq_some_iff.1 h
      exact ⟨rfl, .inr ⟨entry, rfl, hdeliver⟩⟩
    · intro hex
      obtain ⟨rfl, ⟨⟨⟩, _⟩ | ⟨_, ⟨⟩, hdeliver⟩⟩ := hex
      exact Turn.bind_eq_some_iff.2 ⟨shown, t, hdeliver, rfl⟩

theorem serve_eq_some_iff {name : String} {b : Binding} {args : List Guest.Value}
    {trace trace' : Trace} {answer : Except BindingFault (List Guest.Value)} :
    serve host plan name b args trace s = some ((answer, trace'), u) ↔
      Served host plan name b args trace s answer trace' u := by
  unfold serve
  constructor
  · intro h
    obtain ⟨entered, t, henter, h⟩ := Turn.bind_eq_some_iff.1 h
    cases entered with
    | error cause =>
      cases h
      exact .refused henter
    | ok value =>
      obtain ⟨⟨shown, trace''⟩, v, hrecord, ⟨⟩⟩ := Turn.bind_eq_some_iff.1 h
      obtain ⟨rfl, ⟨hnone, rfl, rfl⟩ | ⟨entry, hlistener, hdeliver⟩⟩ :=
        recordCall_eq_some_iff.1 hrecord
      · exact .heard henter (.unarmed _ hnone)
      · cases shown with
        | error cause => exact .unheard henter hlistener hdeliver
        | ok _ => exact .heard henter (.armed hlistener hdeliver)
  · intro h
    cases h with
    | refused hanswered => exact Turn.bind_eq_some_iff.2 ⟨_, _, hanswered, rfl⟩
    | unheard hanswered hlistener hdeliver =>
      refine Turn.bind_eq_some_iff.2 ⟨_, _, hanswered, ?_⟩
      refine Turn.bind_eq_some_iff.2 ⟨(.error _, _), _, ?_, rfl⟩
      exact recordCall_eq_some_iff.2 ⟨rfl, .inr ⟨_, hlistener, hdeliver⟩⟩
    | heard hanswered hheard =>
      refine Turn.bind_eq_some_iff.2 ⟨_, _, hanswered, ?_⟩
      refine Turn.bind_eq_some_iff.2 ⟨(.ok (), _), _, recordCall_eq_some_iff.2 ⟨rfl, ?_⟩, rfl⟩
      cases hheard with
      | unarmed _ hnone => exact .inl ⟨hnone, rfl, rfl⟩
      | armed hlistener hdeliver => exact .inr ⟨_, hlistener, hdeliver⟩

/-! ## Runs under a budget -/

theorem serveImport_of_bound {index : Nat} {l : Linked} {b : Binding} (hl : linked[index]? = some l)
    (hbound : l.definition = .bound b) {args : List Guest.Value} {trace trace' : Trace}
    {answer : Except BindingFault (List Guest.Value)}
    (hserved : Served host plan l.name b args trace s answer trace' t) :
    serveImport host plan linked index args trace s =
      some ((answer.mapError .faulted, trace'), t) := by
  unfold serveImport
  rw [hl]
  dsimp only
  rw [hbound]
  exact Turn.bind_eq_some_iff.2 ⟨_, _, serve_eq_some_iff.2 hserved, rfl⟩

variable (env) in
/-- Serving a call of an import ends the run or goes on with it. -/
theorem serveImport_eq_some {index : Nat} {args : List Guest.Value} {m : Guest.Machine}
    {trace trace' : Trace} {answer : Except Stopped (List Guest.Value)}
    (h : serveImport host plan linked index args trace s = some ((answer, trace'), t)) :
    (∃ why, answer = .error why ∧
        Stops host plan linked ⟨.host index args m, trace, s⟩ ⟨why, m, trace'⟩ t) ∨
      ∃ results, answer = .ok results ∧
        Moves host plan env linked ⟨.host index args m, trace, s⟩
          ⟨.next (m.resume results), trace', t⟩ := by
  unfold serveImport at h
  cases hl : linked[index]? with
  | none =>
    rw [hl] at h
    cases h
    exact .inl ⟨.trapped, rfl, .unlinked args m trace s hl⟩
  | some l =>
    rw [hl] at h
    dsimp only at h
    cases hdefinition : l.definition with
    | halting halt =>
      rw [hdefinition] at h
      cases h
      exact .inl ⟨.halted halt, rfl, .halted args m trace s hl hdefinition⟩
    | bound b =>
      rw [hdefinition] at h
      obtain ⟨⟨served, trace''⟩, u, hserve, ⟨⟩⟩ := Turn.bind_eq_some_iff.1 h
      have hserved := serve_eq_some_iff.1 hserve
      cases served with
      | error cause => exact .inl ⟨.faulted cause, rfl, .faulted m hl hdefinition hserved⟩
      | ok results => exact .inr ⟨results, rfl, .served m hl hdefinition hserved⟩

theorem runGuest_runs {budget : Nat} {x : Guest.Step} {trace : Trace} {stage : Stage}
    (h : runGuest host plan env linked budget x trace s = some (stage, t)) :
    Runs host plan env linked ⟨x, trace, s⟩ stage t := by
  induction budget generalizing x trace s with
  | zero => cases h
  | succ budget ih =>
    cases x with
    | next m =>
      obtain ⟨y, hmoves, hstops⟩ := ih h
      exact ⟨y, .head (.inside m trace s) hmoves, hstops⟩
    | ended how m =>
      cases h
      exact ⟨_, .refl, .ended how m trace _⟩
    | host index args m =>
      rcases runGuest_host_eq_some_iff.1 h with
        ⟨why, trace', hserve, rfl⟩ | ⟨results, trace', u, hserve, hrun⟩
      · rcases serveImport_eq_some env (m := m) hserve with ⟨_, ⟨⟩, hstops⟩ | ⟨_, ⟨⟩, _⟩
        exact ⟨_, .refl, hstops⟩
      · rcases serveImport_eq_some env (m := m) hserve with ⟨_, ⟨⟩, _⟩ | ⟨_, ⟨⟩, hmove⟩
        obtain ⟨y, hmoves, hstops⟩ := ih hrun
        exact ⟨y, .head hmove hmoves, hstops⟩

theorem Stops.runGuest {x : Moment σ} {stage : Stage} (h : Stops host plan linked x stage t) :
    EngineHost.runGuest host plan env linked 1 x.step x.trace x.world = some (stage, t) := by
  cases h with
  | ended => rfl
  | unlinked args m trace _ hl =>
    unfold EngineHost.runGuest serveImport
    rw [hl]
    rfl
  | halted args m trace _ hl hhalting =>
    unfold EngineHost.runGuest serveImport
    rw [hl]
    dsimp only
    rw [hhalting]
    rfl
  | faulted m hl hbound hserved =>
    unfold EngineHost.runGuest
    rw [serveImport_of_bound hl hbound hserved]
    rfl

theorem Runs.runGuest {x : Moment σ} {stage : Stage} (h : Runs host plan env linked x stage t) :
    ∃ budget, EngineHost.runGuest host plan env linked budget x.step x.trace x.world =
      some (stage, t) := by
  obtain ⟨y, hmoves, hstops⟩ := h
  induction hmoves using Relation.ReflTransGen.head_induction_on with
  | refl => exact ⟨1, hstops.runGuest⟩
  | head hmove _ ih =>
    obtain ⟨budget, hrun⟩ := ih
    refine ⟨budget + 1, ?_⟩
    cases hmove with
    | inside m trace _ => exact hrun
    | served m hl hbound hserved =>
      have hserve := serveImport_of_bound hl hbound hserved
      exact runGuest_host_eq_some_iff.2 (.inr ⟨_, _, _, hserve, hrun⟩)

theorem runs_iff {x : Guest.Step} {trace : Trace} {stage : Stage} :
    Runs host plan env linked ⟨x, trace, s⟩ stage t ↔
      ∃ budget, runGuest host plan env linked budget x trace s = some (stage, t) := by
  constructor
  · exact fun h => h.runGuest
  · intro hex
    obtain ⟨budget, h⟩ := hex
    exact runGuest_runs h

end

end EngineHost
