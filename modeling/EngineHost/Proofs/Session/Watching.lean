import EngineHost.Proofs.Session.Faultless
import EngineHost.Proofs.Session.History
/-
Watched sessions.  A watched session stops as soon as an answer is not allowed,
be it the answer to an operation that a callback asked for, at any depth.
Watching a bridged session for faults stops nothing.
-/
namespace EngineHost

/-- Which answers an operation may have. -/
abbrev Watch := Op → Answer → Bool

section

variable (watch : Watch) (budget : Nat)

/-- Perform an operation, unless it or one that is nested in it has an answer
that is not allowed. -/
def watchWithin : Nat → Op → Run Answer
  | 0, _ => fun _ => none
  | depth + 1, op => do
    let answer ← perform budget (Program.play (watchWithin depth) note) op
    if watch op answer then return answer else fun _ => none

/-- A transcript that breaks off at an answer that is not allowed. -/
def Session.watched (depth : Nat) (s : Session) : List Op → Option (List (Answer × List Event))
  | [] => some []
  | op :: rest => do
    let (answer, s) ← watchWithin watch budget depth op s
    let (events, s) := s.takeEvents
    return (answer, events) :: (← s.watched depth rest)

end

/-- No operation that runs guests ends in a fault. -/
def noFaults : Watch := fun op answer => !(op.runsGuests && answer.isFatal)

section

variable {watch : Watch} {budget depth : Nat} {s t : Session}

/-- An answer that comes out of a watched session is allowed. -/
theorem watchWithin_allowed {op : Op} {answer : Answer}
    (h : watchWithin watch budget depth op s = some (answer, t)) : watch op answer := by
  cases depth with
  | zero => cases h
  | succ depth =>
    obtain ⟨found, u, -, h⟩ := Turn.bind_eq_some_iff.1 h
    split at h
    case isTrue hallowed =>
      cases h
      exact hallowed
    case isFalse => cases h

theorem Session.watched_allowed {ops : List Op} {log : List (Answer × List Event)}
    (h : s.watched watch budget depth ops = some log) :
    List.Forall₂ (fun op entry => watch op entry.1) ops log := by
  induction ops generalizing s log with
  | nil =>
    cases h
    exact .nil
  | cons op rest ih =>
    obtain ⟨⟨answer, t⟩, hanswer, h⟩ := Option.bind_eq_some_iff.1 h
    obtain ⟨log, hrest, ⟨⟩⟩ := Option.bind_eq_some_iff.1 h
    exact .cons (watchWithin_allowed hanswer) (ih hrest)

end

/-! ## Watching for faults -/

theorem Session.Fresh.bridged {s : Session} (h : s.Fresh) : s.Bridged := by
  constructor
  · intro site slot hslot
    rw [h.slotAt? site] at hslot
    cases hslot
  · intro name handle hhandle
    rw [h.handles, Std.ExtTreeMap.getElem?_empty] at hhandle
    cases hhandle

/-- A session that binds imports and arms listeners through handles only. -/
structure Session.Sound (s : Session) : Prop where
  bridged : s.Bridged
  kept : s.Kept throughHost

section

variable {s t : Session} {js : Journal}

theorem Course.sound (h : Course throughHost s js t) (hs : s.Sound) : t.Sound :=
  ⟨h.bridged hs.bridged, h.kept hs.kept⟩

variable {budget depth : Nat}

/-- Watching for faults does not get in the way. -/
theorem watchWithin_follows {op : Op} (hs : s.Sound) (hop : throughHost.op op) :
    Proceeds throughHost s (performWithin budget depth op)
      (watchWithin noFaults budget depth op) := by
  induction depth generalizing s op with
  | zero =>
    intro r t hrun
    cases hrun
  | succ depth ih =>
    have h : Companions throughHost Session.Sound (Program.play (performWithin budget depth) note)
        (Program.play (watchWithin noFaults budget depth) note) :=
      ⟨⟨budget, depth, rfl⟩, fun hs => hs.kept, Course.sound,
        fun hs hc => play_proceeds Course.sound ih hc hs⟩
    intro answer t hrun
    obtain ⟨hwatched, hcourse⟩ := perform_proceeds h hs (Nat.le_refl budget) hop _ _ hrun
    refine ⟨Turn.bind_eq_some_iff.2 ⟨answer, t, hwatched, ?_⟩, hcourse⟩
    have hallowed : noFaults op answer = true := by
      unfold noFaults
      cases hguests : op.runsGuests with
      | false => rfl
      | true =>
        have hfatal := (perform_not_fatal h (fun _ hs => hs.bridged) hs budget hguests _ _ hrun).2
        rw [hfatal]
        rfl
    rw [if_pos hallowed]
    rfl

theorem Session.Sound.watched (hs : s.Sound) {ops : List Op}
    (hops : ∀ op ∈ ops, op.Throughout Op.ThroughHost) {log : List (Answer × List Event)}
    (h : s.transcript budget depth ops = some log) :
    s.watched noFaults budget depth ops = some log := by
  induction ops generalizing s log with
  | nil => exact h
  | cons op rest ih =>
    rw [List.forall_mem_cons] at hops
    obtain ⟨⟨answer, t⟩, hanswer, h⟩ := Option.bind_eq_some_iff.1 h
    obtain ⟨log, hrest, ⟨⟩⟩ := Option.bind_eq_some_iff.1 h
    obtain ⟨hwatched, js, hcourse⟩ := watchWithin_follows hs hops.1 _ _ hanswer
    have htaken : t.takeEvents.2.Sound := (hcourse.trans (.one (.noted []))).sound hs
    refine Option.bind_eq_some_iff.2 ⟨(answer, t), hwatched, ?_⟩
    exact Option.bind_eq_some_iff.2 ⟨log, ih htaken hops.2 hrest, rfl⟩

end

/-- When imports are bound and listeners armed through handles only, by the
session and by its callbacks, no guest is run into a fault. -/
theorem no_guest_runs_into_fault {s : Session} (hs : s.Fresh) {ops : List Op}
    (hops : ∀ op ∈ ops, op.Throughout Op.ThroughHost) {budget depth : Nat}
    {log : List (Answer × List Event)} (h : s.transcript budget depth ops = some log) :
    s.watched noFaults budget depth ops = some log :=
  Session.Sound.watched ⟨hs.bridged, hs.kept⟩ hops h

/-! ## A guest that calls -/

/-- A guest whose entry calls one import. -/
def callingGuest : Guest.Module where
  imports := [⟨"env", "f", .func { params := [.i32], results := [.i32] }⟩]
  funcs := #[{ code := [.const32 5, .call 0, .drop] }]
  exports := [⟨"main", .func, 1⟩]

/-- Run it with a function that subscribes to the log of the engine when it is
called. -/
def callingOps : List Op := [
  .handle "a" (.create 0),
  .handle "a" (.register "f" (.i32 1 fun _ =>
    .ask (.handle "a" (.subscribe fun _ => .done 0)) fun _ => .done 7)),
  .handle "a" (.install (.described callingGuest)),
  .handle "a" .compute]

theorem callingOps_throughHost : ∀ op ∈ callingOps, op.Throughout Op.ThroughHost := by
  have hsubscribe : (Op.handle "a" (.subscribe fun _ => .done 0)).Throughout Op.ThroughHost :=
    .intro trivial fun c hc => by cases hc; exact .done 0
  simp only [callingOps, List.forall_mem_cons]
  refine ⟨.intro trivial ?_, .intro trivial ?_, .intro trivial ?_, .intro trivial ?_, nofun⟩
  · intro _ heq
    cases heq
  · intro _ h
    obtain ⟨⟨⟩⟩ := h
    exact .ask hsubscribe fun _ => .done 7
  · intro _ heq
    cases heq
  · intro _ heq
    cases heq

theorem callingOps_watched :
    (tracingSession {}).Fresh ∧ (∀ op ∈ callingOps, op.Throughout Op.ThroughHost) ∧
      ∃ log, (tracingSession {}).transcript 20 3 callingOps = some log ∧
        (tracingSession {}).watched noFaults 20 3 callingOps = some log := by
  have hsome : ((tracingSession {}).transcript 20 3 callingOps).isSome := by decide +kernel
  obtain ⟨log, hlog⟩ := Option.isSome_iff_exists.1 hsome
  exact ⟨tracingSession_fresh {}, callingOps_throughHost, log, hlog,
    no_guest_runs_into_fault (tracingSession_fresh {}) callingOps_throughHost hlog⟩

end EngineHost
