import EngineHost.Proofs.Session.Computing
/-
Which accepted patches can be replayed.  A patch is accepted against the image,
which a run may have left longer than a fresh memory, and against no bytes at
all if the guest shows no memory.  It is replayed on a fresh memory.
-/
namespace EngineHost

/-- An answer that tells of a range past the end of a memory. -/
def Answer.OutOfBounds (a : Answer) : Prop :=
  ∃ offset length size, a = .hostError (.engine (.memoryOutOfBounds offset length size))

section

variable {s t u : Session} {config : TracerConfig} {plan : Plan} {linked : List Linked}

/-- An instance is the same whatever budgets it takes to make it. -/
theorem instantiate_unique {steps₁ steps₂ budget₁ budget₂ depth₁ depth₂ : Nat} {x y : Stage}
    (hx : instantiate steps₁ (hostWithin budget₁ depth₁) config plan linked s = some (x, t))
    (hy : instantiate steps₂ (hostWithin budget₂ depth₂) config plan linked s = some (y, u)) :
    x = y ∧ t = u := by
  have hx := (instantiate_proceeds (companions_within (Nat.le_max_left budget₁ budget₂)
    (Nat.le_max_left depth₁ depth₂)) trivial (Nat.le_max_left steps₁ steps₂) config plan linked
    _ _ hx).1
  have hy := (instantiate_proceeds (companions_within (Nat.le_max_right budget₁ budget₂)
    (Nat.le_max_right depth₁ depth₂)) trivial (Nat.le_max_right steps₁ steps₂) config plan linked
    _ _ hy).1
  cases hx.symm.trans hy
  exact ⟨rfl, rfl⟩

/-- Carrying out a plan ends out of bounds exactly when the patches cannot be
replayed on the fresh instance. -/
theorem carryOut_ofBounds_iff (hlink : link config plan.bindings plan.module = .ok linked)
    {budget depth : Nat} {machine : Guest.Machine} {trace : Trace}
    (hbegins : Begins (hostWithin budget depth) config plan linked s machine trace t) :
    (∃ steps budget depth e u, e.OfBounds ∧
      (carryOut steps (hostWithin budget depth) config plan).run s = some (.error e, u)) ↔
      ¬ plan.module.Replays plan.patches machine.memory.size := by
  obtain ⟨steps, hbegun⟩ := hbegins.instantiate
  constructor
  · intro h
    obtain ⟨steps', budget', depth', e, u, ⟨offset, length, size, rfl⟩, hrun⟩ := h
    generalize hr : (Except.error _ : Except EngineError Execution) = r at hrun
    cases carryOut_eq_some_iff.1 hrun with
    | unlinked hnot =>
      cases hlink.symm.trans hnot
    | @unready linked' stage _ _ hlink' hstart _ hready =>
      cases hlink.symm.trans hlink'
      obtain ⟨rfl, -⟩ := instantiate_unique hbegun hstart
      exact (prepareMemory_error hready).2
    | stoppedEarly | faultedEarly | noEntry | faulted | finished => cases hr
  · intro hnot
    cases hready : prepareMemory config plan machine trace with
    | ok ready => exact absurd (prepareMemory_isOk_iff.1 ⟨ready, hready⟩) hnot
    | error e =>
      exact ⟨steps, budget, depth, e, t, (prepareMemory_error hready).1,
        carryOut_eq_some_iff.2 (.unready hlink hbegun rfl hready)⟩

end

/-- After any history, a computation whose start function returns ends out of
bounds exactly when the patches accepted since the module was installed cannot
be replayed, that is, when one of them reaches past the memory of the fresh
instance or the guest shows no memory to put one into.  If they can, they are
all applied. -/
theorem compute_out_of_bounds_iff {s₀ s : Session} (hfresh : s₀.Fresh)
    {ops : List (Op × Answer)} (hops : Performed s₀ ops s) {name : String} {handle : Handle}
    {tracer : Tracer} {slot : TracerSlot} {m : Guest.Module} {linked : List Linked}
    (h : s.Ready name handle tracer slot m)
    (hlink : link tracer.config slot.bindings m = .ok linked) {budget depth : Nat}
    {machine : Guest.Machine} {trace : Trace} {t : Session}
    (hbegins : Begins (hostWithin budget depth) tracer.config (slot.planOf handle.id m) linked s
      machine trace t) :
    (∃ js, Course .none s₀ js s) ∧
    (∀ js, Course .none s₀ js s → slot.patches =
      (Ledger.ofDeeds (deedsAt ⟨handle.foreign, handle.id⟩ js)).current.patches) ∧
    ((∃ a, s.Answers (.handle name .compute) a ∧ a.OutOfBounds) ↔
      ¬ m.Replays slot.patches machine.memory.size) ∧
    (m.Replays slot.patches machine.memory.size → ∃ ready,
      prepareMemory tracer.config (slot.planOf handle.id m) machine trace = .ok ready ∧
        ready.1.memory = patchAll machine.memory slot.patches ∧
        ready.2.memoryChanges = trace.memoryChanges ++ slot.patches.map Region.ofPatch) := by
  refine ⟨hops.course, fun js hcourse => ?_, ?_, fun hreplays => ?_⟩
  · have hconfig : s.configAt? handle.foreign = some tracer.config :=
      Session.configAt?_of_tracerAt? h.tracing
    have hbooks : Books tracer.config (s.slotAt? ⟨handle.foreign, handle.id⟩) _ _ :=
      hfresh.books hconfig hcourse
    exact (hbooks.slot slot h.there).patches
  · refine Iff.trans ?_ (carryOut_ofBounds_iff hlink hbegins)
    constructor
    · intro hex
      obtain ⟨_, ha, offset, length, size, rfl⟩ := hex
      obtain ⟨steps, budget, depth, r, u, hrun, hr⟩ := h.answers_carryOut_iff.1 ha
      cases r with
      | ok done => cases Answer.ofPayload_engine hr
      | error e =>
        cases Answer.ofPayload_engine hr
        exact ⟨steps, budget, depth, _, u, ⟨offset, length, size, rfl⟩, hrun⟩
    · intro hex
      obtain ⟨steps, budget, depth, _, u, ⟨offset, length, size, rfl⟩, hrun⟩ := hex
      exact ⟨_, h.answers_carryOut_iff.2 ⟨steps, budget, depth, _, u, hrun, rfl⟩, offset, length,
        size, rfl⟩
  · obtain ⟨⟨machine', trace'⟩, hready⟩ : ∃ ready, prepareMemory tracer.config
        (slot.planOf handle.id m) machine trace = .ok ready := prepareMemory_isOk_iff.2 hreplays
    obtain ⟨-, rfl, hchanges, -⟩ := prepareMemory_eq_ok hready
    exact ⟨_, hready, rfl, hchanges⟩

/-! ## Guests that grow, and guests without memory -/

/-- A guest that makes its memory a page longer. -/
def growingGuest : Guest.Module where
  memories := [{ min := 0 }]
  funcs := #[{ code := [.const32 1, .memoryGrow, .drop] }]
  exports := [⟨"main", .func, 0⟩, ⟨"memory", .memory, 0⟩]

/-- Patch the memory that a run of it has left, and run it again. -/
def growingOps : List Op := [
  .handle "a" (.create 0),
  .handle "a" (.install (.described growingGuest)),
  .handle "a" .compute,
  .handle "a" (.patch 0 1 ⟨#[7]⟩),
  .handle "a" .compute]

def Answer.bounds? : Answer → Option (UInt32 × UInt32 × Nat)
  | .hostError (.engine (.memoryOutOfBounds offset length size)) => some (offset, length, size)
  | _ => none

def Answer.isOk : Answer → Bool
  | .ok => true
  | _ => false

/-- The patch is accepted, and it cannot be replayed. -/
theorem growingOps_out_of_bounds :
    ((tracingSession {}).transcript 20 2 growingOps).map
        (·.map fun entry => (entry.1.isOk, entry.1.bounds?)) =
      some [(false, none), (true, none), (false, none), (true, none), (false, some (0, 1, 0))] := by
  decide +kernel

/-- A guest that has no memory and does nothing. -/
def silentGuest : Guest.Module where
  funcs := #[{}]
  exports := [⟨"main", .func, 0⟩]

theorem silentGuest_performed :
    Performed (tracingSession {}) [
      (.handle "a" (.create 0), .id ⟨1⟩),
      (.handle "a" (.install (.described silentGuest)), .ok),
      (.handle "a" (.patch 0 0 .empty), .ok)] (heldSession (patchedSlot silentGuest)) :=
  .cons 2 1 (by rfl) <| .cons 2 1 (by with_unfolding_all rfl) <|
    .cons (t := heldSession (patchedSlot silentGuest)) 2 1 (by with_unfolding_all rfl) (.nil _)

/-- There is no room even for an empty patch. -/
theorem silentGuest_out_of_bounds :
    (tracingSession {}).Fresh ∧ ∃ a, (heldSession (patchedSlot silentGuest)).Answers
      (.handle "a" .compute) a ∧ a.OutOfBounds := by
  have hlink : link {} (patchedSlot silentGuest).bindings silentGuest = .ok [] := by rfl
  have hbegins : Begins (hostWithin 0 0) {} ((patchedSlot silentGuest).planOf ⟨1⟩ silentGuest) []
      (heldSession (patchedSlot silentGuest)) _ _ _ := .without rfl rfl
  have h := compute_out_of_bounds_iff (tracingSession_fresh {}) silentGuest_performed
    (heldSession_ready rfl (by rfl)) hlink hbegins
  have hreplays : ¬ silentGuest.Replays (patchedSlot silentGuest).patches 0 := by
    rw [Guest.Module.Replays, if_neg (by decide)]
    intro hnone
    cases hnone
  exact ⟨tracingSession_fresh {}, h.2.2.1.2 hreplays⟩

end EngineHost
