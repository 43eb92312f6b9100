import EngineHost.Proofs.Session.History
/-
Guarded sessions.  A guarded session stops unless every session it passes
through has a property: at the start and at the end of every operation, of every
callback, and of every operation that a callback asks for, at any depth.

A property that follows from an invariant stops nothing.  So a guarded run that
is the same as the bare one says that the property holds wherever the host, or
anything the host runs, has a chance to look.
-/
namespace EngineHost

section

variable (P : Session → Prop)

open Classical in
/-- An action that has a result only if it starts and ends in sessions with the
property. -/
noncomputable def guarding {α : Type} (a : Run α) : Run α := do
  if P (← get) then
    let r ← a
    if P (← get) then return r else fun _ => none
  else fun _ => none

variable (budget : Nat)

/-- Perform an operation under guard. -/
noncomputable def guardWithin : Nat → Op → Run Answer
  | 0, _ => fun _ => none
  | depth + 1, op =>
    guarding P (perform budget (fun c => guarding P (c.play (guardWithin depth) note)) op)

/-- A transcript that breaks off at a session without the property. -/
noncomputable def Session.guarded (depth : Nat) (s : Session) :
    List Op → Option (List (Answer × List Event))
  | [] => some []
  | op :: rest => do
    let (answer, s) ← guardWithin P budget depth op s
    let (events, s) := s.takeEvents
    return (answer, events) :: (← s.guarded depth rest)

end

section

variable {P : Session → Prop} {s t : Session}

theorem guarding_eq_some_iff {α : Type} {a : Run α} {r : α} :
    guarding P a s = some (r, t) ↔ P s ∧ a s = some (r, t) ∧ P t := by
  unfold guarding
  rw [Turn.get_bind]
  by_cases hs : P s
  case neg => simp [hs]
  case pos =>
    rw [if_pos hs, Turn.bind_eq_some_iff]
    constructor
    case mpr =>
      intro h
      obtain ⟨_, ha, ht⟩ := h
      refine ⟨r, t, ha, ?_⟩
      rw [Turn.get_bind, if_pos ht]
      rfl
    case mp =>
      intro h
      obtain ⟨x, u, ha, h⟩ := h
      rw [Turn.get_bind] at h
      by_cases hu : P u
      case neg =>
        rw [if_neg hu] at h
        cases h
      case pos =>
        rw [if_pos hu] at h
        cases h
        exact ⟨hs, ha, hu⟩

/-- What comes out of a guarded operation has the property. -/
theorem guardWithin_holds {budget depth : Nat} {op : Op} {answer : Answer}
    (h : guardWithin P budget depth op s = some (answer, t)) : P s ∧ P t := by
  cases depth with
  | zero => cases h
  | succ depth =>
    obtain ⟨hs, _, ht⟩ := guarding_eq_some_iff.1 h
    exact ⟨hs, ht⟩

end

/-! ## Transcripts -/

/-- One entry of a transcript, and the rest of it. -/
theorem entry_cons_eq_some_iff (first : Option (Answer × Session))
    (rest : Session → Option (List (Answer × List Event))) {log : List (Answer × List Event)} :
    (do
      let (answer, s) ← first
      let (events, s) := s.takeEvents
      return (answer, events) :: (← rest s)) = some log ↔
      ∃ answer t tail, first = some (answer, t) ∧ rest t.takeEvents.2 = some tail ∧
        log = (answer, t.takeEvents.1) :: tail := by
  constructor
  case mpr =>
    rintro ⟨answer, t, tail, hfirst, hrest, rfl⟩
    refine Option.bind_eq_some_iff.2 ⟨(answer, t), hfirst, ?_⟩
    exact Option.bind_eq_some_iff.2 ⟨tail, hrest, rfl⟩
  case mp =>
    intro h
    obtain ⟨⟨answer, t⟩, hfirst, h⟩ := Option.bind_eq_some_iff.1 h
    obtain ⟨tail, hrest, ⟨⟩⟩ := Option.bind_eq_some_iff.1 h
    exact ⟨answer, t, tail, hfirst, hrest, rfl⟩

section

variable {P : Session → Prop} {s : Session} {budget depth : Nat} {op : Op} {rest : List Op}
  {log : List (Answer × List Event)}

theorem Session.transcript_cons_eq_some_iff :
    s.transcript budget depth (op :: rest) = some log ↔
      ∃ answer t tail, performWithin budget depth op s = some (answer, t) ∧
        t.takeEvents.2.transcript budget depth rest = some tail ∧
        log = (answer, t.takeEvents.1) :: tail :=
  entry_cons_eq_some_iff (performWithin budget depth op s) (·.transcript budget depth rest)

theorem Session.guarded_cons_eq_some_iff :
    s.guarded P budget depth (op :: rest) = some log ↔
      ∃ answer t tail, guardWithin P budget depth op s = some (answer, t) ∧
        t.takeEvents.2.guarded P budget depth rest = some tail ∧
        log = (answer, t.takeEvents.1) :: tail :=
  entry_cons_eq_some_iff (guardWithin P budget depth op s) (·.guarded P budget depth rest)

end

/-! ## Guarding an invariant -/

section

variable {d : Discipline} {I P : Session → Prop} (hkept : ∀ {s}, I s → s.Kept d)
  (hstable : ∀ {s js t}, Course d s js t → I s → I t) (hholds : ∀ {s}, I s → P s)
  {budget depth : Nat} {s : Session}

include hkept hstable hholds

/-- Guarding what an invariant implies does not get in the way. -/
theorem guardWithin_follows {op : Op} (hs : I s) (hop : d.op op) :
    Proceeds d s (performWithin budget depth op) (guardWithin P budget depth op) := by
  have hguarding {α : Type} {s : Session} {a b : Run α} (hs : I s) (hab : Proceeds d s a b) :
      Proceeds d s a (guarding P b) := by
    intro r t hrun
    obtain ⟨hb, js, hcourse⟩ := hab r t hrun
    exact ⟨guarding_eq_some_iff.2 ⟨hholds hs, hb, hholds (hstable hcourse hs)⟩, js, hcourse⟩
  induction depth generalizing s op with
  | zero =>
    intro r t hrun
    cases hrun
  | succ depth ih =>
    have h : Companions d I (Program.play (performWithin budget depth) note)
        (fun c => guarding P (c.play (guardWithin P budget depth) note)) :=
      ⟨⟨budget, depth, rfl⟩, hkept, hstable,
        fun hs hc => hguarding hs (play_proceeds hstable ih hc hs)⟩
    exact hguarding hs (perform_proceeds h hs (Nat.le_refl budget) hop)

theorem Session.guarded_eq_transcript {ops : List Op} (hs : I s) (hops : ∀ op ∈ ops, d.op op)
    {log : List (Answer × List Event)} (h : s.transcript budget depth ops = some log) :
    s.guarded P budget depth ops = some log := by
  induction ops generalizing s log with
  | nil => exact h
  | cons op rest ih =>
    rw [List.forall_mem_cons] at hops
    obtain ⟨answer, t, tail, hanswer, hrest, rfl⟩ := transcript_cons_eq_some_iff.1 h
    obtain ⟨hguarded, js, hcourse⟩ :=
      guardWithin_follows hkept hstable hholds hs hops.1 _ _ hanswer
    have htaken : I t.takeEvents.2 := hstable (hcourse.trans (.one (.noted []))) hs
    exact guarded_cons_eq_some_iff.2 ⟨answer, t, tail, hguarded, ih htaken hops.2 hrest, rfl⟩

end

/-! ## Guards that can be run -/

section

variable (P : Session → Prop) [DecidablePred P]

/-- Guarding by a test. -/
def checking {α : Type} (a : Run α) : Run α := do
  if P (← get) then
    let r ← a
    if P (← get) then return r else fun _ => none
  else fun _ => none

variable (budget : Nat)

def checkWithin : Nat → Op → Run Answer
  | 0, _ => fun _ => none
  | depth + 1, op =>
    checking P (perform budget (fun c => checking P (c.play (checkWithin depth) note)) op)

def Session.checked (depth : Nat) (s : Session) : List Op → Option (List (Answer × List Event))
  | [] => some []
  | op :: rest => do
    let (answer, s) ← checkWithin P budget depth op s
    let (events, s) := s.takeEvents
    return (answer, events) :: (← s.checked depth rest)

end

section

variable {P : Session → Prop} [DecidablePred P]

theorem guarding_eq_checking : @guarding P = @checking P _ := by
  funext α a
  unfold guarding checking
  congr!

theorem guardWithin_eq_checkWithin {budget depth : Nat} :
    guardWithin P budget depth = checkWithin P budget depth := by
  induction depth with
  | zero => rfl
  | succ depth ih =>
    funext op
    rw [guardWithin, checkWithin, ih, guarding_eq_checking]

theorem Session.guarded_eq_checked {budget depth : Nat} {s : Session} {ops : List Op} :
    s.guarded P budget depth ops = s.checked P budget depth ops := by
  induction ops generalizing s with
  | nil => rfl
  | cons op rest ih =>
    unfold guarded checked
    rw [guardWithin_eq_checkWithin]
    exact congrArg _ (funext fun _ => congrArg (· >>= _) ih)

end

end EngineHost
