import EngineHost.Proofs.Tracer.Linking
import EngineHost.Proofs.Tracer.Patching
import EngineHost.Tracer.Engine
/-
All the ways in which carrying out a plan can go, one for each place where it
can end.
-/
namespace EngineHost

namespace Stopped

variable {why : Stopped}

theorem status?_eq_none_iff : why.status? = .ok none ↔ why = .returned := by
  cases why <;> simp [status?]

theorem status?_eq_error_iff {e : EngineError} :
    why.status? = .error e ↔ ∃ cause, why = .faulted cause ∧ e = .fault cause := by
  cases why <;> simp [status?, eq_comm]

end Stopped

section

variable {σ : Type} (budget : Nat) (host : Host σ) (config : TracerConfig) (plan : Plan)

/-- What comes out of a plan, from one world to another. -/
inductive Carried (s : σ) : Except EngineError Execution → σ → Prop where
  | unlinked {e : EngineError} (hlink : link config plan.bindings plan.module = .error e) :
      Carried s (.error e) s
  | stoppedEarly {linked : List Linked} {stage : Stage} {status : TraceStatus} {t : σ}
      (hlink : link config plan.bindings plan.module = .ok linked)
      (hstart : instantiate budget host config plan linked s = some (stage, t))
      (hstatus : stage.why.status? = .ok (some status)) :
      Carried s (.ok { payload := status.payload, memory := none }) t
  | faultedEarly {linked : List Linked} {stage : Stage} {cause : BindingFault} {t : σ}
      (hlink : link config plan.bindings plan.module = .ok linked)
      (hstart : instantiate budget host config plan linked s = some (stage, t))
      (hfault : stage.why = .faulted cause) : Carried s (.error (.fault cause)) t
  | unready {linked : List Linked} {stage : Stage} {e : EngineError} {t : σ}
      (hlink : link config plan.bindings plan.module = .ok linked)
      (hstart : instantiate budget host config plan linked s = some (stage, t))
      (hreturned : stage.why = .returned)
      (hready : prepareMemory config plan stage.machine stage.trace = .error e) :
      Carried s (.error e) t
  | noEntry {linked : List Linked} {stage : Stage} {ready : Guest.Machine × Trace} {t : σ}
      (hlink : link config plan.bindings plan.module = .ok linked)
      (hstart : instantiate budget host config plan linked s = some (stage, t))
      (hreturned : stage.why = .returned)
      (hready : prepareMemory config plan stage.machine stage.trace = .ok ready)
      (hentry : plan.module.entry? config = none) :
      Carried s (.error (.validation
        ("failed to find function export `" ++ config.entryExport ++ "`"))) t
  | faulted {linked : List Linked} {stage final : Stage} {ready : Guest.Machine × Trace}
      {f : Nat} {cause : BindingFault} {t u : σ}
      (hlink : link config plan.bindings plan.module = .ok linked)
      (hstart : instantiate budget host config plan linked s = some (stage, t))
      (hreturned : stage.why = .returned)
      (hready : prepareMemory config plan stage.machine stage.trace = .ok ready)
      (hentry : plan.module.entry? config = some f)
      (hrun : runGuest host plan (plan.module.env config) linked budget
        (Guest.enter (plan.module.env config) f ready.1) ready.2 t = some (final, u))
      (hfault : final.why = .faulted cause) : Carried s (.error (.fault cause)) u
  | finished {linked : List Linked} {stage final : Stage} {ready : Guest.Machine × Trace}
      {f : Nat} {status : Option TraceStatus} {t u : σ}
      (hlink : link config plan.bindings plan.module = .ok linked)
      (hstart : instantiate budget host config plan linked s = some (stage, t))
      (hreturned : stage.why = .returned)
      (hready : prepareMemory config plan stage.machine stage.trace = .ok ready)
      (hentry : plan.module.entry? config = some f)
      (hrun : runGuest host plan (plan.module.env config) linked budget
        (Guest.enter (plan.module.env config) f ready.1) ready.2 t = some (final, u))
      (hstatus : final.why.status? = .ok status) :
      Carried s (.ok {
        payload := (status.map (·.payload)).getD final.trace.payload
        memory := if plan.module.showsMemory then some final.machine.memory else none }) u

end

section

variable {σ : Type} {budget : Nat} {host : Host σ} {config : TracerConfig} {plan : Plan}
  {s t u : σ} {r : Except EngineError Execution}

/-- A call of the guest ends its run, or the run goes on with the answer. -/
theorem runGuest_host_eq_some_iff {env : Guest.Env} {linked : List Linked} {budget index : Nat}
    {args : List Guest.Value} {m : Guest.Machine} {trace : Trace} {stage : Stage} :
    runGuest host plan env linked (budget + 1) (.host index args m) trace s = some (stage, t) ↔
      (∃ why trace', serveImport host plan linked index args trace s =
          some ((.error why, trace'), t) ∧ stage = ⟨why, m, trace'⟩) ∨
        ∃ results trace' u, serveImport host plan linked index args trace s =
          some ((.ok results, trace'), u) ∧
            runGuest host plan env linked budget (.next (m.resume results)) trace' u =
              some (stage, t) := by
  constructor
  · intro h
    unfold runGuest at h
    cases hserve : serveImport host plan linked index args trace s with
    | none =>
      rw [hserve] at h
      cases h
    | some answer =>
      obtain ⟨⟨answer, trace'⟩, u⟩ := answer
      rw [hserve] at h
      cases answer with
      | error why =>
        cases h
        exact .inl ⟨why, trace', rfl, rfl⟩
      | ok results => exact .inr ⟨results, trace', u, rfl, h⟩
  · intro h
    rcases h with ⟨why, trace', hserve, rfl⟩ | ⟨results, trace', u, hserve, hrun⟩
    · unfold runGuest
      rw [hserve]
    · unfold runGuest
      rw [hserve]
      exact hrun

/-- How a fresh instance comes to be. -/
theorem instantiate_eq_some_iff {linked : List Linked} {stage : Stage} :
    instantiate budget host config plan linked s = some (stage, u) ↔
      (placeSegments (plan.module.machine config).memory plan.module.segments = none ∧
        stage = ⟨.trapped, plan.module.machine config, {}⟩ ∧ u = s) ∨
      ∃ memory,
        placeSegments (plan.module.machine config).memory plan.module.segments = some memory ∧
        ((plan.module.start = none ∧
            stage = ⟨.returned, { plan.module.machine config with memory }, {}⟩ ∧ u = s) ∨
          ∃ f, plan.module.start = some f ∧
            runGuest host plan (plan.module.env config) linked budget
              (Guest.enter (plan.module.env config) f { plan.module.machine config with memory })
              {} s = some (stage, u)) := by
  unfold instantiate
  cases placeSegments (plan.module.machine config).memory plan.module.segments with
  | none =>
    constructor
    · intro heq
      cases heq
      exact .inl ⟨rfl, rfl, rfl⟩
    · intro hx
      rcases hx with ⟨_, rfl, rfl⟩ | ⟨_, ⟨⟩, _⟩
      rfl
  | some memory =>
    cases plan.module.start with
    | none =>
      constructor
      · intro heq
        cases heq
        exact .inr ⟨memory, rfl, .inl ⟨rfl, rfl, rfl⟩⟩
      · intro hx
        rcases hx with ⟨⟨⟩, _⟩ | ⟨_, ⟨⟩, ⟨_, rfl, rfl⟩ | ⟨_, ⟨⟩, _⟩⟩
        rfl
    | some f =>
      constructor
      · exact fun h => .inr ⟨memory, rfl, .inr ⟨f, rfl, h⟩⟩
      · intro hx
        rcases hx with ⟨⟨⟩, _⟩ | ⟨_, ⟨⟩, ⟨⟨⟩, _⟩ | ⟨_, ⟨⟩, h⟩⟩
        exact h

theorem runEntry_eq_some_iff {linked : List Linked} {machine : Guest.Machine} {t : Trace} :
    (runEntry budget host config plan linked machine t).run s = some (r, u) ↔
      (plan.module.entry? config = none ∧ r = .error (.validation
        ("failed to find function export `" ++ config.entryExport ++ "`")) ∧ u = s) ∨
      ∃ f final, plan.module.entry? config = some f ∧
        runGuest host plan (plan.module.env config) linked budget
          (Guest.enter (plan.module.env config) f machine) t s = some (final, u) ∧
        r = final.why.status?.map fun status =>
          { payload := (status.map (·.payload)).getD final.trace.payload
            memory := if plan.module.showsMemory then some final.machine.memory else none } := by
  unfold runEntry
  cases hentry : plan.module.entry? config with
  | none =>
    constructor
    · intro heq
      cases heq
      exact .inl ⟨rfl, rfl, rfl⟩
    · intro hx
      rcases hx with ⟨_, rfl, rfl⟩ | ⟨_, _, ⟨⟩, _⟩
      rfl
  | some f =>
    rw [Turn.run_lift_bind_eq_some_iff]
    constructor
    · intro hex
      obtain ⟨final, t', hrun, h⟩ := hex
      refine .inr ⟨f, final, rfl, ?_⟩
      cases hstatus : final.why.status? with
      | error e =>
        rw [hstatus] at h
        cases h
        exact ⟨hrun, rfl⟩
      | ok status =>
        rw [hstatus] at h
        cases status <;> cases h <;> exact ⟨hrun, rfl⟩
    · intro hx
      rcases hx with ⟨⟨⟩, _⟩ | ⟨_, final, ⟨⟩, hrun, rfl⟩
      refine ⟨final, u, hrun, ?_⟩
      cases final.why.status? with
      | error e => rfl
      | ok status => cases status <;> rfl

theorem carryOut_eq_some_iff :
    (carryOut budget host config plan).run s = some (r, u) ↔
      Carried budget host config plan s r u := by
  unfold carryOut
  constructor
  · intro h
    rcases Attempt.run_ofExcept_bind_eq_some_iff.1 h with ⟨e, hlink, rfl, rfl⟩ | ⟨linked, hlink, h⟩
    · exact .unlinked hlink
    obtain ⟨stage, t, hstart, h⟩ := Turn.run_lift_bind_eq_some_iff.1 h
    rcases Attempt.run_ofExcept_bind_eq_some_iff.1 h with ⟨e, hstatus, rfl, rfl⟩ | ⟨status, hstatus, h⟩
    · obtain ⟨cause, hfault, rfl⟩ := Stopped.status?_eq_error_iff.1 hstatus
      exact .faultedEarly hlink hstart hfault
    cases status with
    | some status =>
      cases h
      exact .stoppedEarly hlink hstart hstatus
    | none =>
      have hreturned := Stopped.status?_eq_none_iff.1 hstatus
      rcases Attempt.run_ofExcept_bind_eq_some_iff.1 h with ⟨e, hready, rfl, rfl⟩ | ⟨ready, hready, h⟩
      · exact .unready hlink hstart hreturned hready
      rcases runEntry_eq_some_iff.1 h with ⟨hentry, rfl, rfl⟩ | ⟨f, final, hentry, hrun, rfl⟩
      · exact .noEntry hlink hstart hreturned hready hentry
      cases hstatus' : final.why.status? with
      | error e =>
        obtain ⟨cause, hfault, rfl⟩ := Stopped.status?_eq_error_iff.1 hstatus'
        exact .faulted hlink hstart hreturned hready hentry hrun hfault
      | ok status => exact .finished hlink hstart hreturned hready hentry hrun hstatus'
  · intro h
    cases h with
    | unlinked hlink =>
      rw [hlink]
      rfl
    | stoppedEarly hlink hstart hstatus =>
      rw [hlink]
      refine Turn.run_lift_bind_eq_some_iff.2 ⟨_, _, hstart, ?_⟩
      rw [hstatus]
      rfl
    | faultedEarly hlink hstart hfault =>
      rw [hlink]
      refine Turn.run_lift_bind_eq_some_iff.2 ⟨_, _, hstart, ?_⟩
      rw [hfault]
      rfl
    | unready hlink hstart hreturned hready =>
      rw [hlink]
      refine Turn.run_lift_bind_eq_some_iff.2 ⟨_, _, hstart, ?_⟩
      rw [hreturned, hready]
      rfl
    | noEntry hlink hstart hreturned hready hentry =>
      rw [hlink]
      refine Turn.run_lift_bind_eq_some_iff.2 ⟨_, _, hstart, ?_⟩
      rw [hreturned, hready]
      exact runEntry_eq_some_iff.2 (.inl ⟨hentry, rfl, rfl⟩)
    | faulted hlink hstart hreturned hready hentry hrun hfault =>
      rw [hlink]
      refine Turn.run_lift_bind_eq_some_iff.2 ⟨_, _, hstart, ?_⟩
      rw [hreturned, hready]
      refine runEntry_eq_some_iff.2 (.inr ⟨_, _, hentry, hrun, ?_⟩)
      rw [hfault]
      rfl
    | finished hlink hstart hreturned hready hentry hrun hstatus =>
      rw [hlink]
      refine Turn.run_lift_bind_eq_some_iff.2 ⟨_, _, hstart, ?_⟩
      rw [hreturned, hready]
      refine runEntry_eq_some_iff.2 (.inr ⟨_, _, hentry, hrun, ?_⟩)
      rw [hstatus]
      rfl

/-- The memory of a fresh instance is that of the stage its start function
leaves. -/
theorem initialMemory_eq_some {r : Except EngineError ByteArray}
    (h : (initialMemory budget host config plan).run s = some (r, u)) :
    (∃ e, link config plan.bindings plan.module = .error e ∧ r = .error e ∧ u = s) ∨
      ∃ linked stage, link config plan.bindings plan.module = .ok linked ∧
        instantiate budget host config plan linked s = some (stage, u) ∧
        ((∃ cause, stage.why = .faulted cause ∧ r = .error (.fault cause)) ∨
          (∃ status, stage.why.status? = .ok (some status) ∧ r = .error (.link
            ("instantiation halted with status " ++ Text.Decimal.write status.code.toInt))) ∨
          stage.why = .returned ∧
            r = .ok (if plan.module.showsMemory then stage.machine.memory else .empty)) := by
  unfold initialMemory at h
  rcases Attempt.run_ofExcept_bind_eq_some_iff.1 h with hlink | ⟨linked, hlink, h⟩
  · exact .inl hlink
  obtain ⟨stage, t, hstart, h⟩ := Turn.run_lift_bind_eq_some_iff.1 h
  refine .inr ⟨linked, stage, hlink, ?_⟩
  rcases Attempt.run_ofExcept_bind_eq_some_iff.1 h with ⟨e, hstatus, rfl, rfl⟩ | ⟨status, hstatus, h⟩
  · obtain ⟨cause, hfault, rfl⟩ := Stopped.status?_eq_error_iff.1 hstatus
    exact ⟨hstart, .inl ⟨cause, hfault, rfl⟩⟩
  cases status with
  | some status =>
    cases h
    exact ⟨hstart, .inr (.inl ⟨status, hstatus, rfl⟩)⟩
  | none =>
    cases h
    exact ⟨hstart, .inr (.inr ⟨Stopped.status?_eq_none_iff.1 hstatus, rfl⟩)⟩

/-- Computing is carrying out the plan.  The memory goes into the slot, if the slot
is still there. -/
theorem Tracer.compute_cases {here : Place σ Tracer} {id : EngineId}
    {r : Except EngineError ByteArray} (hplan : (here.get s).plan id = .ok plan)
    (h : (Tracer.compute budget host here id).run s = some (r, t)) :
    ∃ done u, (carryOut budget host (here.get s).config plan).run s = some (done, u) ∧
      ((r = done.map (·.payload) ∧ (t = u ∨ ∃ tracer, t = here.set tracer u)) ∨
        ((∃ execution, done = .ok execution) ∧ r = .error (.unknownEngine id) ∧ t = u)) := by
  unfold Tracer.compute at h
  obtain ⟨_, _, ⟨⟩, h⟩ := Turn.run_lift_bind_eq_some_iff.1 h
  rcases Attempt.run_ofExcept_bind_eq_some_iff.1 h with ⟨_, hplan', _⟩ | ⟨_, hplan', h⟩
  · cases hplan.symm.trans hplan'
  cases hplan.symm.trans hplan'
  rcases Turn.run_bind_eq_some_iff.1 h with ⟨e, hcarried, rfl⟩ | ⟨done, u, hcarried, h⟩
  · exact ⟨.error e, t, hcarried, .inl ⟨rfl, .inl rfl⟩⟩
  refine ⟨.ok done, u, hcarried, ?_⟩
  cases hmemory : done.memory with
  | none =>
    rw [hmemory] at h
    cases h
    exact .inl ⟨rfl, .inl rfl⟩
  | some memory =>
    rw [hmemory] at h
    obtain ⟨_, _, ⟨⟩, h⟩ := Turn.run_lift_bind_eq_some_iff.1 h
    rcases Attempt.run_ofExcept_bind_eq_some_iff.1 h with ⟨e, hslot, rfl, rfl⟩ | ⟨slot, hslot, h⟩
    · refine .inr ⟨⟨done, rfl⟩, ?_, rfl⟩
      unfold Tracer.slot at hslot
      split at hslot <;> cases hslot
      rfl
    · obtain ⟨_, _, ⟨⟩, ⟨⟩⟩ := Turn.run_lift_bind_eq_some_iff.1 h
      exact .inl ⟨rfl, .inr ⟨_, rfl⟩⟩

end

end EngineHost
