import EngineHost.Proofs.Decoding
import EngineHost.Proofs.Session.Computing
/-
What a computation is answered with: by why the traced run stopped, and by
nothing else.
-/
namespace EngineHost

/-! ## Why a run stopped -/

/-- The failure that a guest's end is told as. -/
def Stopped.failure? : Stopped → Option TraceFailure
  | .outOfFuel => some .outOfGas
  | .halted .revert => some .executionReverted
  | .halted .stop => some .stopToken
  | .trapped => some .unknown
  | .returned | .faulted _ => none

namespace Stage

variable {stage : Stage}

theorem answer_returned (h : stage.why = .returned) :
    Answer.ofPayload stage.outcome = .trace (.success stage.trace.payload) := by
  rw [outcome, h]
  exact Answer.ofPayload_ok (TraceResult.decode_trace stage.trace)

theorem answer_failed {why : TraceFailure} (h : stage.why.failure? = some why) :
    Answer.ofPayload stage.outcome = .trace (.failure why) := by
  have hstatus : ∃ status, stage.why.status? = .ok (some status) ∧
      TraceFailure.ofCode status.code.toInt64 = why := by
    cases hwhy : stage.why with
    | returned | faulted =>
      rw [hwhy] at h
      cases h
    | trapped | outOfFuel =>
      rw [hwhy] at h
      cases h
      exact ⟨_, rfl, by decide⟩
    | halted halt =>
      rw [hwhy] at h
      cases halt with
      | stop | revert =>
        cases h
        exact ⟨_, rfl, by decide⟩
  obtain ⟨status, hstatus, rfl⟩ := hstatus
  rw [outcome, hstatus]
  exact Answer.ofPayload_ok (TraceResult.decode_status status)

theorem answer_faulted {cause : BindingFault} (h : stage.why = .faulted cause) :
    Answer.ofPayload stage.outcome = .hostError (.fault cause) := by
  rw [outcome, h]
  rfl

/-- There are no other answers. -/
theorem answer_cases (stage : Stage) :
    (stage.why = .returned ∧
        Answer.ofPayload stage.outcome = .trace (.success stage.trace.payload)) ∨
      (∃ why, stage.why.failure? = some why ∧
        Answer.ofPayload stage.outcome = .trace (.failure why)) ∨
      ∃ cause, stage.why = .faulted cause ∧
        Answer.ofPayload stage.outcome = .hostError (.fault cause) := by
  cases hwhy : stage.why with
  | returned => exact .inl ⟨rfl, answer_returned hwhy⟩
  | faulted cause => exact .inr (.inr ⟨cause, rfl, answer_faulted hwhy⟩)
  | trapped | outOfFuel => exact .inr (.inl ⟨_, rfl, answer_failed (by rw [hwhy]; rfl)⟩)
  | halted halt =>
    cases halt with
    | stop | revert => exact .inr (.inl ⟨_, rfl, answer_failed (by rw [hwhy]; rfl)⟩)

theorem answer_success_iff {payload : ByteArray} :
    .trace (.success payload) = Answer.ofPayload stage.outcome ↔
      stage.why = .returned ∧ payload = stage.trace.payload := by
  constructor
  · intro h
    rcases stage.answer_cases with ⟨hwhy, heq⟩ | ⟨_, _, heq⟩ | ⟨_, _, heq⟩
    · cases h.trans heq
      exact ⟨hwhy, rfl⟩
    · cases h.trans heq
    · cases h.trans heq
  · intro hex
    obtain ⟨hwhy, rfl⟩ := hex
    exact (answer_returned hwhy).symm

theorem answer_failure_iff {why : TraceFailure} :
    .trace (.failure why) = Answer.ofPayload stage.outcome ↔ stage.why.failure? = some why := by
  constructor
  · intro h
    rcases stage.answer_cases with ⟨_, heq⟩ | ⟨_, hwhy, heq⟩ | ⟨_, _, heq⟩
    · cases h.trans heq
    · cases h.trans heq
      exact hwhy
    · cases h.trans heq
  · exact fun hwhy => (answer_failed hwhy).symm

theorem answer_fault_iff {cause : BindingFault} :
    .hostError (.fault cause) = Answer.ofPayload stage.outcome ↔ stage.why = .faulted cause := by
  constructor
  · intro h
    rcases stage.answer_cases with ⟨_, heq⟩ | ⟨_, _, heq⟩ | ⟨_, hwhy, heq⟩
    · cases h.trans heq
    · cases h.trans heq
    · cases h.trans heq
      exact hwhy
  · exact fun hwhy => (answer_faulted hwhy).symm

end Stage

/-! ## Answers -/

/-- The answers to a computation are those that the traced runs of the module come to. -/
theorem Session.Ready.answers_iff {s : Session} {name : String} {handle : Handle} {tracer : Tracer}
    {slot : TracerSlot} {m : Guest.Module} {linked : List Linked}
    (h : s.Ready name handle tracer slot m)
    (hlink : link tracer.config slot.bindings m = .ok linked)
    (hreplays : ∀ budget depth machine trace t,
      Begins (hostWithin budget depth) tracer.config (slot.planOf handle.id m) linked s machine
        trace t → m.Replays slot.patches machine.memory.size) {a : Answer} :
    s.Answers (.handle name .compute) a ↔ ∃ budget depth stage t,
      Traced (hostWithin budget depth) tracer.config (slot.planOf handle.id m) linked s stage t ∧
        a = .ofPayload stage.outcome := by
  rw [h.answers_carryOut_iff]
  constructor
  · intro hex
    obtain ⟨steps, budget, depth, r, t, hcarried, rfl⟩ := hex
    obtain ⟨stage, htraced, houtcome⟩ := traced_of_carryOut hlink
      (entry?_of_approve h.accepted) (hreplays budget depth) hcarried
    exact ⟨budget, depth, stage, t, htraced, by rw [houtcome]⟩
  · intro hex
    obtain ⟨budget, depth, stage, t, htraced, rfl⟩ := hex
    obtain ⟨steps, r, hcarried, houtcome⟩ := htraced.carryOut hlink
    exact ⟨steps, budget, depth, r, t, hcarried, by rw [houtcome]⟩

/-- What an accepted guest's computation is answered with, whatever its entries
and its listener do.  A trace is handed back exactly when the guest returns, a
failure exactly when it stops in the way that the failure stands for, and a
fault exactly when an entry or the listener returned it. -/
theorem compute_answers {s : Session} {name : String} {handle : Handle} {tracer : Tracer}
    {slot : TracerSlot} {m : Guest.Module} {linked : List Linked}
    (h : s.Ready name handle tracer slot m)
    (hlink : link tracer.config slot.bindings m = .ok linked)
    (hreplays : ∀ budget depth machine trace t,
      Begins (hostWithin budget depth) tracer.config (slot.planOf handle.id m) linked s machine
        trace t → m.Replays slot.patches machine.memory.size) :
    (∀ payload, s.Answers (.handle name .compute) (.trace (.success payload)) ↔
      ∃ budget depth stage t, Traced (hostWithin budget depth) tracer.config
        (slot.planOf handle.id m) linked s stage t ∧
          stage.why = .returned ∧ payload = stage.trace.payload) ∧
    (∀ why, s.Answers (.handle name .compute) (.trace (.failure why)) ↔
      ∃ budget depth stage t, Traced (hostWithin budget depth) tracer.config
        (slot.planOf handle.id m) linked s stage t ∧ stage.why.failure? = some why) ∧
    (∀ cause, s.Answers (.handle name .compute) (.hostError (.fault cause)) ↔
      ∃ budget depth x, Reaches (hostWithin budget depth) tracer.config
        (slot.planOf handle.id m) linked s x ∧
          Refused (hostWithin budget depth) (slot.planOf handle.id m) linked x cause) ∧
    ∀ a, s.Answers (.handle name .compute) a →
      (∃ result, a = .trace result) ∨ ∃ cause, a = .hostError (.fault cause) := by
  have hiff {a : Answer} := h.answers_iff hlink hreplays (a := a)
  refine ⟨fun payload => hiff.trans ?_, fun why => hiff.trans ?_, fun cause => hiff.trans ?_,
    fun a ha => ?_⟩
  · simp only [Stage.answer_success_iff]
  · simp only [Stage.answer_failure_iff]
  · simp only [Stage.answer_fault_iff, traced_faulted_iff]
  · obtain ⟨budget, depth, stage, t, -, rfl⟩ := hiff.1 ha
    rcases stage.answer_cases with ⟨_, heq⟩ | ⟨_, _, heq⟩ | ⟨cause, _, heq⟩
    · exact .inl ⟨_, heq⟩
    · exact .inl ⟨_, heq⟩
    · exact .inr ⟨cause, heq⟩

/-! ## A guest that reverts -/

/-- A guest whose entry ends the execution. -/
def revertingGuest : Guest.Module where
  imports := [⟨"env", "_evm_revert", .func {}⟩]
  funcs := #[{ code := [.call 0] }]
  exports := [⟨"main", .func, 1⟩]

def revertingSlot : TracerSlot := { module := some revertingGuest }

def revertingLinked : List Linked := [⟨"_evm_revert", {}, .halting .revert⟩]

/-- The failure that it is answered with is the one that its run stops with. -/
theorem revertingSlot_answers :
    (heldSession revertingSlot).Answers (.handle "a" .compute)
        (.trace (.failure .executionReverted)) ∧
      ∃ budget depth stage t, Traced (hostWithin budget depth) {}
        (revertingSlot.planOf ⟨1⟩ revertingGuest) revertingLinked (heldSession revertingSlot) stage
          t ∧ stage.why.failure? = some .executionReverted := by
  have hlink : link {} revertingSlot.bindings revertingGuest = .ok revertingLinked := by rfl
  have hanswer : (heldSession revertingSlot).Answers (.handle "a" .compute)
      (.trace (.failure .executionReverted)) := ⟨10, 1, _, by rfl⟩
  have h := compute_answers (heldSession_ready rfl (by rfl)) hlink fun _ _ _ _ _ _ =>
    Guest.Module.replays_nil
  exact ⟨hanswer, (h.2.1 .executionReverted).1 hanswer⟩

end EngineHost
