import EngineHost.Proofs.Tracer.Carrying
import Mathlib.Logic.Equiv.Defs
/-
Faults on their way out.  The faults that an execution ends with are those that
its entries answered with, as they stood.  So a host that puts its faults in
other words leads to executions that end in those words, and are otherwise the
same.
-/
namespace EngineHost

/-- How what is said of one engine is said of another. -/
structure Retelling where
  engine : Equiv.Perm EngineId
  fault : Equiv.Perm BindingFault

/-- The other way round. -/
def Retelling.symm (w : Retelling) : Retelling := ⟨w.engine.symm, w.fault.symm⟩

def EngineError.retold (w : Retelling) : EngineError → EngineError
  | .unknownEngine id => .unknownEngine (w.engine id)
  | .noBinary id => .noBinary (w.engine id)
  | .fault cause => .fault (w.fault cause)
  | e => e

theorem EngineError.retold_symm (w : Retelling) (e : EngineError) :
    (e.retold w).retold w.symm = e := by
  cases e <;> simp [retold, Retelling.symm]

def Stopped.retold (w : Retelling) : Stopped → Stopped
  | .faulted cause => .faulted (w.fault cause)
  | why => why

def Stage.retold (w : Retelling) (x : Stage) : Stage := { x with why := x.why.retold w }

/-- A host that says what this one says in other words. -/
def Host.retelling {σ : Type} (host : Host σ) (w : Retelling) : Host σ where
  enter entry id name call := do return (← host.enter entry id name call).mapError w.fault
  deliver entry id item := do return (← host.deliver entry id item).mapError w.fault

section

variable {σ : Type} {host : Host σ} {w : Retelling} {plan : Plan} {s t : σ}

theorem enter_retold {entry : EntryPoint} {id : EngineId} {name : String} {call : RawCall}
    {r : Except BindingFault Int32} (h : host.enter entry id name call s = some (r, t)) :
    (host.retelling w).enter entry id name call s = some (r.mapError w.fault, t) :=
  Turn.bind_eq_of_eq_some h

theorem deliver_retold {entry : LogEntry} {id : EngineId} {item : ByteArray}
    {r : Except BindingFault Unit} (h : host.deliver entry id item s = some (r, t)) :
    (host.retelling w).deliver entry id item s = some (r.mapError w.fault, t) :=
  Turn.bind_eq_of_eq_some h

/-! ## Calls of the guest -/

theorem recordCall_retold {trace trace' : Trace} {name : String} {args : List Int64}
    {result : Option Int32} {shown : Except BindingFault Unit}
    (h : recordCall host plan trace name args result s = some ((shown, trace'), t)) :
    recordCall (host.retelling w) plan trace name args result s =
      some ((shown.mapError w.fault, trace'), t) := by
  unfold recordCall at h ⊢
  cases hlistener : plan.listener with
  | none =>
    rw [hlistener] at h
    cases h
    rfl
  | some entry =>
    rw [hlistener] at h
    obtain ⟨_, _, hdeliver, ⟨⟩⟩ := Turn.bind_eq_some_iff.1 h
    exact Turn.bind_eq_some_iff.2 ⟨_, t, deliver_retold hdeliver, rfl⟩

theorem serve_retold {name : String} {b : Binding} {args : List Guest.Value} {trace trace' : Trace}
    {answer : Except BindingFault (List Guest.Value)}
    (h : serve host plan name b args trace s = some ((answer, trace'), t)) :
    serve (host.retelling w) plan name b args trace s =
      some ((answer.mapError w.fault, trace'), t) := by
  unfold serve at h ⊢
  obtain ⟨entered, u, henter, h⟩ := Turn.bind_eq_some_iff.1 h
  refine Turn.bind_eq_some_iff.2 ⟨_, u, enter_retold henter, ?_⟩
  cases entered with
  | error cause =>
    cases h
    rfl
  | ok value =>
    obtain ⟨⟨shown, _⟩, _, hrecord, ⟨⟩⟩ := Turn.bind_eq_some_iff.1 h
    refine Turn.bind_eq_some_iff.2 ⟨_, t, recordCall_retold hrecord, ?_⟩
    cases shown <;> rfl

variable {linked : List Linked}

theorem serveImport_retold {index : Nat} {args : List Guest.Value} {trace trace' : Trace}
    {answer : Except Stopped (List Guest.Value)}
    (h : serveImport host plan linked index args trace s = some ((answer, trace'), t)) :
    serveImport (host.retelling w) plan linked index args trace s =
      some ((answer.mapError (Stopped.retold w), trace'), t) := by
  unfold serveImport at h ⊢
  cases hl : linked[index]? with
  | none =>
    rw [hl] at h
    cases h
    rfl
  | some l =>
    rw [hl] at h
    dsimp only at h ⊢
    cases hdefinition : l.definition with
    | halting halt =>
      rw [hdefinition] at h
      cases h
      rfl
    | bound b =>
      rw [hdefinition] at h
      obtain ⟨⟨served, _⟩, _, hserve, ⟨⟩⟩ := Turn.bind_eq_some_iff.1 h
      refine Turn.bind_eq_some_iff.2 ⟨_, t, serve_retold hserve, ?_⟩
      cases served <;> rfl

theorem runGuest_retold {env : Guest.Env} {budget : Nat} {x : Guest.Step} {trace : Trace}
    {stage : Stage} (h : runGuest host plan env linked budget x trace s = some (stage, t)) :
    runGuest (host.retelling w) plan env linked budget x trace s = some (stage.retold w, t) := by
  induction budget generalizing x trace s with
  | zero => cases h
  | succ budget ih =>
    cases x with
    | next m => exact ih h
    | ended how m =>
      cases h
      cases how <;> rfl
    | host index args m =>
      rcases runGuest_host_eq_some_iff.1 h with
        ⟨why, trace', hserve, rfl⟩ | ⟨results, trace', u, hserve, hrest⟩
      · exact runGuest_host_eq_some_iff.2 (.inl ⟨_, trace', serveImport_retold hserve, rfl⟩)
      · exact runGuest_host_eq_some_iff.2
          (.inr ⟨results, trace', u, serveImport_retold hserve, ih hrest⟩)

/-! ## Executions -/

variable {budget : Nat} {config : TracerConfig}

theorem instantiate_retold {stage : Stage}
    (h : instantiate budget host config plan linked s = some (stage, t)) :
    instantiate budget (host.retelling w) config plan linked s = some (stage.retold w, t) := by
  rcases instantiate_eq_some_iff.1 h with ⟨hnone, rfl, rfl⟩ | ⟨memory, hmemory, hstart⟩
  · exact instantiate_eq_some_iff.2 (.inl ⟨hnone, rfl, rfl⟩)
  · refine instantiate_eq_some_iff.2 (.inr ⟨memory, hmemory, ?_⟩)
    rcases hstart with ⟨hnone, rfl, rfl⟩ | ⟨f, hf, hrun⟩
    · exact .inl ⟨hnone, rfl, rfl⟩
    · exact .inr ⟨f, hf, runGuest_retold hrun⟩

theorem Stopped.status?_retold {why : Stopped} :
    (why.retold w).status? = why.status?.mapError (EngineError.retold w) := by
  cases why <;> rfl

theorem carryOut_retold {r : Except EngineError Execution}
    (h : (carryOut budget host config plan).run s = some (r, t)) :
    (carryOut budget (host.retelling w) config plan).run s =
      some (r.mapError (EngineError.retold w), t) := by
  have hstatus {stage : Stage} {status : Option TraceStatus}
      (h : stage.why.status? = .ok status) : (stage.retold w).why.status? = .ok status := by
    rw [Stage.retold, Stopped.status?_retold, h]
    rfl
  have hwhy {stage : Stage} (h : stage.why = .returned) : (stage.retold w).why = .returned := by
    rw [Stage.retold, h]
    rfl
  have hfaulted {stage : Stage} {cause : BindingFault} (h : stage.why = .faulted cause) :
      (stage.retold w).why = .faulted (w.fault cause) := by
    rw [Stage.retold, h]
    rfl
  rw [carryOut_eq_some_iff]
  cases carryOut_eq_some_iff.1 h with
  | unlinked hlink =>
    obtain ⟨reason, rfl⟩ := link_error hlink
    exact .unlinked hlink
  | stoppedEarly hlink hstart hstopped =>
    exact .stoppedEarly hlink (instantiate_retold hstart) (hstatus hstopped)
  | faultedEarly hlink hstart hfault =>
    exact .faultedEarly hlink (instantiate_retold hstart) (hfaulted hfault)
  | unready hlink hstart hreturned hready =>
    obtain ⟨⟨offset, length, size, rfl⟩, -⟩ := prepareMemory_error hready
    exact .unready hlink (instantiate_retold hstart) (hwhy hreturned) hready
  | noEntry hlink hstart hreturned hready hentry =>
    exact .noEntry hlink (instantiate_retold hstart) (hwhy hreturned) hready hentry
  | faulted hlink hstart hreturned hready hentry hrun hfault =>
    exact .faulted hlink (instantiate_retold hstart) (hwhy hreturned) hready hentry
      (runGuest_retold hrun) (hfaulted hfault)
  | finished hlink hstart hreturned hready hentry hrun hended =>
    -- the payload and the memory are read off the guest's final state, which is as it was
    have hfinished := Carried.finished hlink (instantiate_retold hstart) (hwhy hreturned) hready
      hentry (runGuest_retold hrun) (hstatus hended)
    exact hfinished

theorem initialMemory_retold {r : Except EngineError ByteArray}
    (h : (initialMemory budget host config plan).run s = some (r, t)) :
    (initialMemory budget (host.retelling w) config plan).run s =
      some (r.mapError (EngineError.retold w), t) := by
  unfold initialMemory at h ⊢
  rcases Attempt.run_ofExcept_bind_eq_some_iff.1 h with ⟨e, hlink, rfl, rfl⟩ | ⟨linked, hlink, h⟩
  · obtain ⟨reason, rfl⟩ := link_error hlink
    exact Attempt.run_ofExcept_bind_eq_some_iff.2 (.inl ⟨_, hlink, rfl, rfl⟩)
  obtain ⟨stage, u, hstart, h⟩ := Turn.run_lift_bind_eq_some_iff.1 h
  refine Attempt.run_ofExcept_bind_eq_some_iff.2 (.inr ⟨linked, hlink,
    Turn.run_lift_bind_eq_some_iff.2 ⟨_, u, instantiate_retold hstart, ?_⟩⟩)
  have hstatus : (stage.retold w).why.status? = stage.why.status?.mapError (EngineError.retold w) :=
    Stopped.status?_retold
  rw [hstatus]
  rcases Attempt.run_ofExcept_bind_eq_some_iff.1 h with
    ⟨e, hstopped, rfl, rfl⟩ | ⟨status, hstopped, h⟩
  · rw [hstopped]
    rfl
  · rw [hstopped]
    cases status with
    | none | some =>
      cases h
      rfl

end

end EngineHost
