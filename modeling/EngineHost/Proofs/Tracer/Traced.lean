import EngineHost.Proofs.Tracer.Moments
/-
Traced runs: how the run of a module in a fresh instance goes, from its start
function to the end of its entry export, without any budget.
-/
namespace EngineHost

namespace Stage

/-- What is handed back for a run that stopped here: its trace, a status in the
place of the trace, or the fault that ended it. -/
def outcome (stage : Stage) : Except EngineError ByteArray :=
  stage.why.status?.map fun status => (status.map (·.payload)).getD stage.trace.payload

end Stage

section

variable {σ : Type} (host : Host σ) (config : TracerConfig) (plan : Plan) (linked : List Linked)

/-- The machine of a fresh instance that has its memory filled. -/
def Plan.filled? : Option Guest.Machine :=
  (placeSegments (plan.module.machine config).memory plan.module.segments).map fun memory =>
    { plan.module.machine config with memory }

/-- A fresh instance is ready: its start function has returned, if it has one. -/
inductive Begins (s : σ) : Guest.Machine → Trace → σ → Prop where
  | without {machine : Guest.Machine} (hfilled : plan.filled? config = some machine)
      (hnone : plan.module.start = none) : Begins s machine {} s
  | returned {machine : Guest.Machine} {f : Nat} {stage : Stage} {t : σ}
      (hfilled : plan.filled? config = some machine) (hstart : plan.module.start = some f)
      (hrun : Runs host plan (plan.module.env config) linked
        ⟨Guest.enter (plan.module.env config) f machine, {}, s⟩ stage t)
      (hreturned : stage.why = .returned) : Begins s stage.machine stage.trace t

/-- A traced run stops here. -/
inductive Traced (s : σ) : Stage → σ → Prop where
  /-- The data of the module does not fit into its memory. -/
  | unfilled (hfilled : plan.filled? config = none) :
      Traced s ⟨.trapped, plan.module.machine config, {}⟩ s
  /-- In the start function. -/
  | start {machine : Guest.Machine} {f : Nat} {stage : Stage} {t : σ}
      (hfilled : plan.filled? config = some machine) (hstart : plan.module.start = some f)
      (hrun : Runs host plan (plan.module.env config) linked
        ⟨Guest.enter (plan.module.env config) f machine, {}, s⟩ stage t)
      (hstopped : stage.why ≠ .returned) : Traced s stage t
  /-- In the entry export, or at its end. -/
  | entry {machine : Guest.Machine} {trace : Trace} {ready : Guest.Machine × Trace} {f : Nat}
      {stage : Stage} {t u : σ} (hbegins : Begins host config plan linked s machine trace t)
      (hready : prepareMemory config plan machine trace = .ok ready)
      (hentry : plan.module.entry? config = some f)
      (hrun : Runs host plan (plan.module.env config) linked
        ⟨Guest.enter (plan.module.env config) f ready.1, ready.2, t⟩ stage u) : Traced s stage u

/-- The moments of a traced run. -/
inductive Reaches (s : σ) : Moment σ → Prop where
  | start {machine : Guest.Machine} {f : Nat} {x : Moment σ}
      (hfilled : plan.filled? config = some machine) (hstart : plan.module.start = some f)
      (hmoves : Relation.ReflTransGen (Moves host plan (plan.module.env config) linked)
        ⟨Guest.enter (plan.module.env config) f machine, {}, s⟩ x) : Reaches s x
  | entry {machine : Guest.Machine} {trace : Trace} {ready : Guest.Machine × Trace} {f : Nat}
      {x : Moment σ} {t : σ} (hbegins : Begins host config plan linked s machine trace t)
      (hready : prepareMemory config plan machine trace = .ok ready)
      (hentry : plan.module.entry? config = some f)
      (hmoves : Relation.ReflTransGen (Moves host plan (plan.module.env config) linked)
        ⟨Guest.enter (plan.module.env config) f ready.1, ready.2, t⟩ x) : Reaches s x

/-- The guest calls a bound import, and what the call leads to is a fault: the
entry of the import returns it, or the listener that is shown the call. -/
inductive Refused : Moment σ → BindingFault → Prop where
  | entry {index : Nat} {args : List Guest.Value} {m : Guest.Machine} {trace : Trace} {s t : σ}
      {l : Linked} {b : Binding} {cause : BindingFault} (hl : linked[index]? = some l)
      (hbound : l.definition = .bound b)
      (hanswered : Answered host plan l.name b args s (.error cause) t) :
      Refused ⟨.host index args m, trace, s⟩ cause
  | listener {index : Nat} {args : List Guest.Value} {m : Guest.Machine} {trace : Trace}
      {s t u : σ} {l : Linked} {b : Binding} {value : Int32} {entry : LogEntry}
      {cause : BindingFault} (hl : linked[index]? = some l) (hbound : l.definition = .bound b)
      (hanswered : Answered host plan l.name b args s (.ok value) t)
      (hlistener : plan.listener = some entry)
      (hdeliver : host.deliver entry plan.engine
        (b.itemOf plan trace l.name args value).json.toUTF8 t = some (.error cause, u)) :
      Refused ⟨.host index args m, trace, s⟩ cause

end

section

variable {σ : Type} {host : Host σ} {config : TracerConfig} {plan : Plan} {linked : List Linked}
  {s t u : σ}

/-! ## Instantiation -/

theorem filled?_of_placeSegments {memory : ByteArray}
    (h : placeSegments (plan.module.machine config).memory plan.module.segments = some memory) :
    plan.filled? config = some { plan.module.machine config with memory } := by
  rw [Plan.filled?, h, Option.map_some]

theorem instantiate_cases {budget : Nat} {stage : Stage}
    (h : instantiate budget host config plan linked s = some (stage, t)) :
    (stage.why = .returned ∧ Begins host config plan linked s stage.machine stage.trace t) ∨
      (stage.why ≠ .returned ∧ Traced host config plan linked s stage t) := by
  rcases instantiate_eq_some_iff.1 h with ⟨hfill, rfl, rfl⟩ |
    ⟨memory, hfill, ⟨hnone, rfl, rfl⟩ | ⟨f, hstart, hrun⟩⟩
  · exact .inr ⟨nofun, .unfilled (by rw [Plan.filled?, hfill, Option.map_none])⟩
  · exact .inl ⟨rfl, .without (filled?_of_placeSegments hfill) hnone⟩
  · have hfilled := filled?_of_placeSegments hfill
    by_cases hwhy : stage.why = .returned
    · exact .inl ⟨hwhy, .returned hfilled hstart (runGuest_runs hrun) hwhy⟩
    · exact .inr ⟨hwhy, .start hfilled hstart (runGuest_runs hrun) hwhy⟩

/-- A guest that has run within a budget runs within every larger one. -/
theorem runGuest_mono {env : Guest.Env} {budget₁ budget₂ : Nat} (hbudget : budget₁ ≤ budget₂)
    {x : Guest.Step} {trace : Trace} {stage : Stage}
    (h : runGuest host plan env linked budget₁ x trace s = some (stage, t)) :
    runGuest host plan env linked budget₂ x trace s = some (stage, t) := by
  induction budget₁ generalizing budget₂ s x trace with
  | zero => cases h
  | succ budget₁ ih =>
    obtain ⟨budget₂, rfl⟩ : ∃ b, budget₂ = b + 1 := ⟨budget₂ - 1, by omega⟩
    have hle : budget₁ ≤ budget₂ := by omega
    cases x with
    | next m => exact ih hle h
    | ended how m => exact h
    | host index args m =>
      rw [runGuest_host_eq_some_iff] at h ⊢
      rcases h with hended | ⟨results, trace', u, hserve, hrun⟩
      · exact .inl hended
      · exact .inr ⟨results, trace', u, hserve, ih hle hrun⟩

theorem instantiate_mono {budget₁ budget₂ : Nat} (hbudget : budget₁ ≤ budget₂) {stage : Stage}
    (h : instantiate budget₁ host config plan linked s = some (stage, t)) :
    instantiate budget₂ host config plan linked s = some (stage, t) := by
  rcases instantiate_eq_some_iff.1 h with hunfilled | ⟨memory, hfill, hwithout | ⟨f, hstart, hrun⟩⟩
  · exact instantiate_eq_some_iff.2 (.inl hunfilled)
  · exact instantiate_eq_some_iff.2 (.inr ⟨memory, hfill, .inl hwithout⟩)
  · exact instantiate_eq_some_iff.2
      (.inr ⟨memory, hfill, .inr ⟨f, hstart, runGuest_mono hbudget hrun⟩⟩)

theorem initialMemory_mono {budget₁ budget₂ : Nat} (hbudget : budget₁ ≤ budget₂) {r : Except EngineError ByteArray}
    (h : (initialMemory budget₁ host config plan).run s = some (r, t)) :
    (initialMemory budget₂ host config plan).run s = some (r, t) := by
  unfold initialMemory at h ⊢
  rcases Attempt.run_ofExcept_bind_eq_some_iff.1 h with hlink | ⟨linked, hlink, h⟩
  · exact Attempt.run_ofExcept_bind_eq_some_iff.2 (.inl hlink)
  obtain ⟨stage, u, hstart, h⟩ := Turn.run_lift_bind_eq_some_iff.1 h
  exact Attempt.run_ofExcept_bind_eq_some_iff.2 (.inr ⟨linked, hlink,
    Turn.run_lift_bind_eq_some_iff.2 ⟨stage, u, instantiate_mono hbudget hstart, h⟩⟩)

theorem carryOut_mono {budget₁ budget₂ : Nat} (hbudget : budget₁ ≤ budget₂)
    {r : Except EngineError Execution}
    (h : (carryOut budget₁ host config plan).run s = some (r, t)) :
    (carryOut budget₂ host config plan).run s = some (r, t) := by
  rw [carryOut_eq_some_iff] at h ⊢
  cases h with
  | unlinked hlink => exact .unlinked hlink
  | stoppedEarly hlink hstart hstatus =>
    exact .stoppedEarly hlink (instantiate_mono hbudget hstart) hstatus
  | faultedEarly hlink hstart hfault =>
    exact .faultedEarly hlink (instantiate_mono hbudget hstart) hfault
  | unready hlink hstart hreturned hready =>
    exact .unready hlink (instantiate_mono hbudget hstart) hreturned hready
  | noEntry hlink hstart hreturned hready hentry =>
    exact .noEntry hlink (instantiate_mono hbudget hstart) hreturned hready hentry
  | faulted hlink hstart hreturned hready hentry hrun hfault =>
    exact .faulted hlink (instantiate_mono hbudget hstart) hreturned hready hentry
      (runGuest_mono hbudget hrun) hfault
  | finished hlink hstart hreturned hready hentry hrun hstatus =>
    exact .finished hlink (instantiate_mono hbudget hstart) hreturned hready hentry
      (runGuest_mono hbudget hrun) hstatus

theorem placeSegments_of_filled {machine : Guest.Machine}
    (h : plan.filled? config = some machine) :
    ∃ memory, placeSegments (plan.module.machine config).memory plan.module.segments = some memory ∧
      machine = { plan.module.machine config with memory } := by
  obtain ⟨memory, hfill, rfl⟩ := Option.map_eq_some_iff.1 h
  exact ⟨memory, hfill, rfl⟩

theorem Begins.instantiate {machine : Guest.Machine} {trace : Trace}
    (h : Begins host config plan linked s machine trace t) :
    ∃ budget, EngineHost.instantiate budget host config plan linked s =
      some (⟨.returned, machine, trace⟩, t) := by
  cases h with
  | without hfilled hnone =>
    obtain ⟨memory, hfill, rfl⟩ := placeSegments_of_filled hfilled
    exact ⟨0, instantiate_eq_some_iff.2 (.inr ⟨memory, hfill, .inl ⟨hnone, rfl, rfl⟩⟩)⟩
  | @returned _ f stage _ hfilled hstart hrun hreturned =>
    obtain ⟨memory, hfill, rfl⟩ := placeSegments_of_filled hfilled
    obtain ⟨budget, hrun⟩ := runs_iff.1 hrun
    refine ⟨budget, instantiate_eq_some_iff.2 (.inr ⟨memory, hfill, .inr ⟨f, hstart, ?_⟩⟩)⟩
    rw [hrun, ← hreturned]

/-- Without a start function, the memory of a fresh instance is its filled one. -/
theorem initialMemory_of_filled {budget : Nat} {machine : Guest.Machine}
    (hlink : link config plan.bindings plan.module = .ok linked)
    (hfilled : plan.filled? config = some machine) (hnone : plan.module.start = none) :
    (initialMemory budget host config plan).run s =
      some (.ok (if plan.module.showsMemory then machine.memory else .empty), s) := by
  obtain ⟨memory, hfill, rfl⟩ := placeSegments_of_filled hfilled
  have hstart : instantiate budget host config plan linked s =
      some (⟨.returned, { plan.module.machine config with memory }, {}⟩, s) :=
    instantiate_eq_some_iff.2 (.inr ⟨memory, hfill, .inl ⟨hnone, rfl, rfl⟩⟩)
  unfold initialMemory
  rw [hlink]
  exact Turn.run_lift_bind_eq_some_iff.2 ⟨_, s, hstart, rfl⟩

/-! ## Executions -/

/-- What carrying out a plan hands back is the outcome of a traced run. -/
theorem traced_of_carryOut {budget : Nat} {r : Except EngineError Execution}
    (hlink : link config plan.bindings plan.module = .ok linked)
    (hentry : (plan.module.entry? config).isSome)
    (hreplays : ∀ machine trace t, Begins host config plan linked s machine trace t →
      plan.module.Replays plan.patches machine.memory.size)
    (h : (carryOut budget host config plan).run s = some (r, u)) :
    ∃ stage, Traced host config plan linked s stage u ∧ r.map (·.payload) = stage.outcome := by
  cases carryOut_eq_some_iff.1 h with
  | unlinked hnot =>
    rw [hlink] at hnot
    cases hnot
  | @stoppedEarly linked' stage status _ hlink' hstart hstatus =>
    cases hlink.symm.trans hlink'
    rcases instantiate_cases hstart with ⟨hreturned, _⟩ | ⟨_, htraced⟩
    · rw [hreturned] at hstatus
      cases hstatus
    · refine ⟨stage, htraced, ?_⟩
      rw [Stage.outcome, hstatus]
      rfl
  | @faultedEarly linked' stage cause _ hlink' hstart hfault =>
    cases hlink.symm.trans hlink'
    rcases instantiate_cases hstart with ⟨hreturned, _⟩ | ⟨_, htraced⟩
    · rw [hreturned] at hfault
      cases hfault
    · refine ⟨stage, htraced, ?_⟩
      rw [Stage.outcome, hfault]
      rfl
  | @unready linked' stage e _ hlink' hstart hreturned hready =>
    cases hlink.symm.trans hlink'
    rcases instantiate_cases hstart with ⟨_, hbegins⟩ | ⟨hstopped, _⟩
    · exact absurd (hreplays _ _ _ hbegins) (prepareMemory_error hready).2
    · exact absurd hreturned hstopped
  | noEntry _ _ _ _ hnone =>
    rw [hnone] at hentry
    cases hentry
  | @faulted linked' stage final ready f cause _ _ hlink' hstart hreturned hready hentry hrun hfault =>
    cases hlink.symm.trans hlink'
    rcases instantiate_cases hstart with ⟨_, hbegins⟩ | ⟨hstopped, _⟩
    · refine ⟨final, .entry hbegins hready hentry (runGuest_runs hrun), ?_⟩
      rw [Stage.outcome, hfault]
      rfl
    · exact absurd hreturned hstopped
  | @finished linked' stage final ready f status _ _ hlink' hstart hreturned hready hentry hrun hstatus =>
    cases hlink.symm.trans hlink'
    rcases instantiate_cases hstart with ⟨_, hbegins⟩ | ⟨hstopped, _⟩
    · refine ⟨final, .entry hbegins hready hentry (runGuest_runs hrun), ?_⟩
      rw [Stage.outcome, hstatus]
      rfl
    · exact absurd hreturned hstopped

/-- A stage that stopped early ends the execution there. -/
theorem carryOut_of_instantiate {budget : Nat} {stage : Stage}
    (hlink : link config plan.bindings plan.module = .ok linked)
    (hstart : instantiate budget host config plan linked s = some (stage, t))
    (hstopped : stage.why ≠ .returned) :
    ∃ r, (carryOut budget host config plan).run s = some (r, t) ∧
      r.map (·.payload) = stage.outcome := by
  cases hstatus : stage.why.status? with
  | error e =>
    obtain ⟨cause, hfault, rfl⟩ := Stopped.status?_eq_error_iff.1 hstatus
    refine ⟨_, carryOut_eq_some_iff.2 (.faultedEarly hlink hstart hfault), ?_⟩
    rw [Stage.outcome, hstatus]
    rfl
  | ok status =>
    cases status with
    | none => exact absurd (Stopped.status?_eq_none_iff.1 hstatus) hstopped
    | some status =>
      refine ⟨_, carryOut_eq_some_iff.2 (.stoppedEarly hlink hstart hstatus), ?_⟩
      rw [Stage.outcome, hstatus]
      rfl

/-- The run of the entry export is what carrying out the plan comes to. -/
theorem Begins.carryOut {machine : Guest.Machine} {trace : Trace} {ready : Guest.Machine × Trace}
    {f : Nat} {stage : Stage} (h : Begins host config plan linked s machine trace t)
    (hlink : link config plan.bindings plan.module = .ok linked)
    (hready : prepareMemory config plan machine trace = .ok ready)
    (hentry : plan.module.entry? config = some f)
    (hrun : Runs host plan (plan.module.env config) linked
      ⟨Guest.enter (plan.module.env config) f ready.1, ready.2, t⟩ stage u) :
    ∃ budget, (EngineHost.carryOut budget host config plan).run s =
      some (stage.why.status?.map fun status => {
        payload := (status.map (·.payload)).getD stage.trace.payload
        memory := if plan.module.showsMemory then some stage.machine.memory else none }, u) := by
  obtain ⟨budget₁, hstart⟩ := h.instantiate
  obtain ⟨budget₂, hrun⟩ := runs_iff.1 hrun
  have hstart := instantiate_mono (Nat.le_max_left budget₁ budget₂) hstart
  have hrun := runGuest_mono (Nat.le_max_right budget₁ budget₂) hrun
  refine ⟨max budget₁ budget₂, carryOut_eq_some_iff.2 ?_⟩
  cases hstatus : stage.why.status? with
  | error e =>
    obtain ⟨cause, hfault, rfl⟩ := Stopped.status?_eq_error_iff.1 hstatus
    exact .faulted hlink hstart rfl hready hentry hrun hfault
  | ok status => exact .finished hlink hstart rfl hready hentry hrun hstatus

theorem Traced.carryOut {stage : Stage} (h : Traced host config plan linked s stage u)
    (hlink : link config plan.bindings plan.module = .ok linked) :
    ∃ budget r, (EngineHost.carryOut budget host config plan).run s = some (r, u) ∧
      r.map (·.payload) = stage.outcome := by
  cases h with
  | unfilled hfilled =>
    have hnone := Option.map_eq_none_iff.1 hfilled
    have hinstance : instantiate 0 host config plan linked s =
        some (⟨.trapped, plan.module.machine config, {}⟩, s) :=
      instantiate_eq_some_iff.2 (.inl ⟨hnone, rfl, rfl⟩)
    exact ⟨0, carryOut_of_instantiate hlink hinstance nofun⟩
  | @start _ f _ _ hfilled hstart hrun hstopped =>
    obtain ⟨memory, hfill, rfl⟩ := placeSegments_of_filled hfilled
    obtain ⟨budget, hrun⟩ := runs_iff.1 hrun
    have hinstance := instantiate_eq_some_iff.2 (.inr ⟨memory, hfill, .inr ⟨f, hstart, hrun⟩⟩)
    exact ⟨budget, carryOut_of_instantiate hlink hinstance hstopped⟩
  | entry hbegins hready hentry hrun =>
    obtain ⟨budget, hcarried⟩ := hbegins.carryOut hlink hready hentry hrun
    refine ⟨budget, _, hcarried, ?_⟩
    rw [Stage.outcome]
    cases stage.why.status? <;> rfl

/-! ## Faults -/

theorem Refused.stops {x : Moment σ} {cause : BindingFault} (h : Refused host plan linked x cause) :
    ∃ stage t, Stops host plan linked x stage t ∧ stage.why = .faulted cause := by
  cases h with
  | entry hl hbound hanswered => exact ⟨_, _, .faulted _ hl hbound (.refused hanswered), rfl⟩
  | listener hl hbound hanswered hlistener hdeliver =>
    exact ⟨_, _, .faulted _ hl hbound (.unheard hanswered hlistener hdeliver), rfl⟩

theorem Stops.refused {x : Moment σ} {stage : Stage} {cause : BindingFault}
    (h : Stops host plan linked x stage t) (hwhy : stage.why = .faulted cause) :
    Refused host plan linked x cause := by
  cases h with
  | ended how => cases how <;> cases hwhy
  | unlinked => cases hwhy
  | halted => cases hwhy
  | faulted m hl hbound hserved =>
    cases hwhy
    cases hserved with
    | refused hanswered => exact .entry hl hbound hanswered
    | unheard hanswered hlistener hdeliver => exact .listener hl hbound hanswered hlistener hdeliver

/-- A traced run ends with a fault exactly when an entry or the listener has
returned it. -/
theorem traced_faulted_iff {cause : BindingFault} :
    (∃ stage t, Traced host config plan linked s stage t ∧ stage.why = .faulted cause) ↔
      ∃ x, Reaches host config plan linked s x ∧ Refused host plan linked x cause := by
  constructor
  · intro h
    obtain ⟨stage, t, htraced, hwhy⟩ := h
    cases htraced with
    | unfilled => cases hwhy
    | start hfilled hstart hrun =>
      obtain ⟨x, hmoves, hstops⟩ := hrun
      exact ⟨x, .start hfilled hstart hmoves, hstops.refused hwhy⟩
    | entry hbegins hready hentry hrun =>
      obtain ⟨x, hmoves, hstops⟩ := hrun
      exact ⟨x, .entry hbegins hready hentry hmoves, hstops.refused hwhy⟩
  · intro h
    obtain ⟨x, hreaches, hrefused⟩ := h
    obtain ⟨stage, t, hstops, hwhy⟩ := hrefused.stops
    refine ⟨stage, t, ?_, hwhy⟩
    cases hreaches with
    | start hfilled hstart hmoves =>
      exact .start hfilled hstart ⟨x, hmoves, hstops⟩ (by rw [hwhy]; nofun)
    | entry hbegins hready hentry hmoves => exact .entry hbegins hready hentry ⟨x, hmoves, hstops⟩

end

end EngineHost
