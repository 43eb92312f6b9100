import EngineHost.Call.Entry
import Mathlib.Data.List.Forall2
/-
Actions that follow others.  Where a first action has a result, the action that
follows it has the same one, and something is known of it.

Two things are proved at once in this way, what an action does to its world,
and that a larger budget, which only ever replaces no result by some result,
changes nothing.
-/
namespace EngineHost

variable {σ ε α β : Type}

/-! ## What a bind results in -/

theorem bind_eq_ok_iff {a : Except ε α} {f : α → Except ε β} {r : β} :
    (a >>= f) = .ok r ↔ ∃ x, a = .ok x ∧ f x = .ok r := by
  cases a with
  | error e =>
    constructor
    · intro heq
      cases heq
    · intro hex
      obtain ⟨_, ⟨⟩, _⟩ := hex
  | ok x =>
    constructor
    · exact fun h => ⟨x, rfl, h⟩
    · intro hex
      obtain ⟨_, ⟨⟩, h⟩ := hex
      exact h

theorem bind_eq_error_iff {a : Except ε α} {f : α → Except ε β} {e : ε} :
    (a >>= f) = .error e ↔ a = .error e ∨ ∃ x, a = .ok x ∧ f x = .error e := by
  cases a with
  | error e' =>
    constructor
    · intro heq
      cases heq
      exact .inl rfl
    · intro hx
      rcases hx with h | ⟨_, ⟨⟩, _⟩
      cases h
      rfl
  | ok x =>
    constructor
    · exact fun h => .inr ⟨x, rfl, h⟩
    · intro hx
      rcases hx with ⟨⟨⟩⟩ | ⟨_, ⟨⟩, h⟩
      exact h

theorem mapError_eq_ok_iff {ε' : Type} {a : Except ε α} {f : ε → ε'} {r : α} :
    a.mapError f = .ok r ↔ a = .ok r := by
  cases a with
  | error e =>
    constructor
    · intro heq
      cases heq
    · intro heq
      cases heq
  | ok x =>
    constructor
    · intro heq
      cases heq
      rfl
    · intro heq
      cases heq
      rfl

theorem map_eq_ok_iff {a : Except ε α} {f : α → β} {r : β} :
    a.map f = .ok r ↔ ∃ x, a = .ok x ∧ f x = r := by
  cases a <;> simp [Except.map]

theorem toOption_eq_some_iff {a : Except ε α} {r : α} : a.toOption = some r ↔ a = .ok r := by
  cases a <;> simp [Except.toOption]

theorem toBool_eq_true_iff {a : Except ε α} : a.toBool = true ↔ ∃ r, a = .ok r := by
  cases a <;> simp [Except.toBool]

theorem forM_eq_ok_iff {f : α → Except ε Unit} {xs : List α} :
    xs.forM f = .ok () ↔ ∀ x ∈ xs, f x = .ok () := by
  induction xs with
  | nil =>
    constructor
    · intro _ _ heq
      cases heq
    · exact fun _ => rfl
  | cons x xs ih =>
    show (f x >>= fun _ => xs.forM f) = .ok () ↔ _
    rw [bind_eq_ok_iff, List.forall_mem_cons, ← ih]
    constructor
    · intro h
      obtain ⟨⟨⟩, hx, hxs⟩ := h
      exact ⟨hx, hxs⟩
    · intro h
      obtain ⟨hx, hxs⟩ := h
      exact ⟨(), hx, hxs⟩

theorem mapM_eq_ok_iff {f : α → Except ε β} {xs : List α} {ys : List β} :
    xs.mapM f = .ok ys ↔ List.Forall₂ (fun x y => f x = .ok y) xs ys := by
  induction xs generalizing ys with
  | nil =>
    rw [List.mapM_nil, List.forall₂_nil_left_iff]
    constructor
    · intro heq
      cases heq
      rfl
    · intro heq
      subst heq
      rfl
  | cons x xs ih =>
    rw [List.mapM_cons, bind_eq_ok_iff, List.forall₂_cons_left_iff]
    constructor
    · intro hex
      obtain ⟨y, hy, h⟩ := hex
      obtain ⟨ys, hys, ⟨⟩⟩ := bind_eq_ok_iff.1 h
      exact ⟨y, ys, hy, ih.1 hys, rfl⟩
    · intro hex
      obtain ⟨y, ys, hy, hys, rfl⟩ := hex
      exact ⟨y, hy, bind_eq_ok_iff.2 ⟨ys, ih.2 hys, rfl⟩⟩

/-- An error is that of the first element that gives one. -/
theorem forM_eq_error_iff {f : α → Except ε Unit} {xs : List α} {e : ε} :
    xs.forM f = .error e ↔ ∃ before x after, xs = before ++ x :: after ∧
      (∀ y ∈ before, f y = .ok ()) ∧ f x = .error e := by
  induction xs with
  | nil =>
    constructor
    · intro heq
      cases heq
    · intro hex
      obtain ⟨before, x, after, hxs, _⟩ := hex
      exact absurd hxs.symm (List.append_ne_nil_of_right_ne_nil _ (List.cons_ne_nil x after))
  | cons x xs ih =>
    show (f x >>= fun _ => xs.forM f) = .error e ↔ _
    rw [bind_eq_error_iff, ih]
    constructor
    · intro h
      rcases h with h | ⟨⟨⟩, hx, before, y, after, rfl, hbefore, hy⟩
      · exact ⟨[], x, xs, rfl, List.forall_mem_nil _, h⟩
      · exact ⟨x :: before, y, after, rfl, List.forall_mem_cons.2 ⟨hx, hbefore⟩, hy⟩
    · intro hex
      obtain ⟨before, y, after, hxs, hbefore, hy⟩ := hex
      cases before with
      | nil =>
        cases hxs
        exact .inl hy
      | cons z before =>
        cases hxs
        rw [List.forall_mem_cons] at hbefore
        exact .inr ⟨(), hbefore.1, before, y, after, rfl, hbefore.2, hy⟩

theorem foldlM_eq_error_iff {f : β → α → Except ε β} {xs : List α} {y : β} {e : ε} :
    xs.foldlM f y = .error e ↔ ∃ before x after z, xs = before ++ x :: after ∧
      before.foldlM f y = .ok z ∧ f z x = .error e := by
  induction xs generalizing y with
  | nil =>
    constructor
    · intro heq
      cases heq
    · intro hex
      obtain ⟨before, x, after, _, hxs, _⟩ := hex
      exact absurd hxs.symm (List.append_ne_nil_of_right_ne_nil _ (List.cons_ne_nil x after))
  | cons x xs ih =>
    rw [List.foldlM_cons, bind_eq_error_iff]
    constructor
    · intro h
      rcases h with h | ⟨y', hy', h⟩
      · exact ⟨[], x, xs, y, rfl, rfl, h⟩
      · obtain ⟨before, w, after, z, rfl, hz, hw⟩ := ih.1 h
        refine ⟨x :: before, w, after, z, rfl, ?_, hw⟩
        rw [List.foldlM_cons, hy']
        exact hz
    · intro hex
      obtain ⟨before, w, after, z, hxs, hz, hw⟩ := hex
      cases before with
      | nil =>
        cases hxs
        cases hz
        exact .inl hw
      | cons v before =>
        cases hxs
        rw [List.foldlM_cons] at hz
        obtain ⟨y', hy', hz⟩ := bind_eq_ok_iff.1 hz
        exact .inr ⟨y', hy', ih.2 ⟨before, w, after, z, rfl, hz, hw⟩⟩

section

variable {P : ε → Prop} {e : ε}

theorem forM_error {f : α → Except ε Unit} {xs : List α} (hf : ∀ x, f x = .error e → P e)
    (h : xs.forM f = .error e) : P e := by
  induction xs with
  | nil => cases h
  | cons x xs ih =>
    rcases bind_eq_error_iff.1 h with h | ⟨_, _, h⟩
    · exact hf x h
    · exact ih h

theorem mapM_error {f : α → Except ε β} {xs : List α} (hf : ∀ x, f x = .error e → P e)
    (h : xs.mapM f = .error e) : P e := by
  induction xs with
  | nil =>
    rw [List.mapM_nil] at h
    cases h
  | cons x xs ih =>
    rw [List.mapM_cons] at h
    rcases bind_eq_error_iff.1 h with h | ⟨y, _, h⟩
    · exact hf x h
    rcases bind_eq_error_iff.1 h with h | ⟨ys, _, ⟨⟩⟩
    exact ih h

theorem foldlM_error {f : β → α → Except ε β} {xs : List α} {y : β}
    (hf : ∀ y x, f y x = .error e → P e) (h : xs.foldlM f y = .error e) : P e := by
  induction xs generalizing y with
  | nil => cases h
  | cons x xs ih =>
    rw [List.foldlM_cons] at h
    rcases bind_eq_error_iff.1 h with h | ⟨y', _, h⟩
    · exact hf y x h
    · exact ih h

end

/-- A bind has a result if both of its parts have. -/
theorem Turn.bind_eq_some_iff {a : Turn σ α} {f : α → Turn σ β} {s u : σ} {r : β} :
    (a >>= f) s = some (r, u) ↔ ∃ x t, a s = some (x, t) ∧ f x t = some (r, u) := by
  show (a s).bind (fun p => f p.1 p.2) = some (r, u) ↔ _
  rw [Option.bind_eq_some_iff]
  constructor
  · intro h
    obtain ⟨⟨x, t⟩, ha, hf⟩ := h
    exact ⟨x, t, ha, hf⟩
  · intro h
    obtain ⟨x, t, ha, hf⟩ := h
    exact ⟨(x, t), ha, hf⟩

/-- What comes after an action whose result is known. -/
theorem Turn.bind_eq_of_eq_some {a : Turn σ α} {f : α → Turn σ β} {s t : σ} {r : α}
    (ha : a s = some (r, t)) : (a >>= f) s = f r t := by
  show (a s).bind (fun p => f p.1 p.2) = _
  rw [ha, Option.bind_some]

/-- What comes after looking at the state. -/
theorem Turn.get_bind {f : σ → Turn σ α} {s : σ} : ((get : Turn σ σ) >>= f) s = f s s := rfl

theorem Turn.run_get_bind {f : σ → ExceptT ε (Turn σ) α} {s : σ} :
    ((get : ExceptT ε (Turn σ) σ) >>= f).run s = (f s).run s := rfl

/-- What comes after looking at a part of the state. -/
theorem Place.read_bind {here : Place σ α} {f : α → Turn σ β} {s : σ} :
    (here.read >>= f) s = f (here.get s) s := rfl

/-- What is made of the result of an action. -/
theorem Turn.bind_pure_eq_some_iff {a : Turn σ α} {f : α → β} {s u : σ} {r : β} :
    (a >>= fun x => pure (f x)) s = some (r, u) ↔ ∃ x, a s = some (x, u) ∧ r = f x := by
  rw [Turn.bind_eq_some_iff]
  constructor
  · intro h
    obtain ⟨x, t, ha, ⟨⟩⟩ := h
    exact ⟨x, ha, rfl⟩
  · intro h
    obtain ⟨x, ha, rfl⟩ := h
    exact ⟨x, u, ha, rfl⟩

/-- What comes after an action that an error can end. -/
theorem Turn.run_bind_eq_some_iff {a : ExceptT ε (Turn σ) α} {f : α → ExceptT ε (Turn σ) β}
    {s u : σ} {r : Except ε β} :
    (a >>= f).run s = some (r, u) ↔
      (∃ e, a.run s = some (.error e, u) ∧ r = .error e) ∨
        ∃ x t, a.run s = some (.ok x, t) ∧ (f x).run t = some (r, u) := by
  rw [ExceptT.run_bind, Turn.bind_eq_some_iff]
  constructor
  · intro h
    obtain ⟨x | x, t, ha, hf⟩ := h
    · cases hf
      exact .inl ⟨x, ha, rfl⟩
    · exact .inr ⟨x, t, ha, hf⟩
  · intro h
    rcases h with ⟨e, ha, rfl⟩ | ⟨x, t, ha, hf⟩
    · exact ⟨.error e, u, ha, rfl⟩
    · exact ⟨.ok x, t, ha, hf⟩

/-- An action that cannot fail, where failing is possible. -/
theorem Turn.run_lift_bind {a : Turn σ α} {f : α → ExceptT ε (Turn σ) β} :
    ((liftM a : ExceptT ε (Turn σ) α) >>= f).run = a >>= fun x => (f x).run :=
  ExceptT.run_bind_lift a f

theorem Turn.run_lift_bind_eq_some_iff {a : Turn σ α} {f : α → ExceptT ε (Turn σ) β} {s u : σ}
    {r : Except ε β} :
    ((liftM a : ExceptT ε (Turn σ) α) >>= f).run s = some (r, u) ↔
      ∃ x t, a s = some (x, t) ∧ (f x).run t = some (r, u) := by
  rw [Turn.run_lift_bind, Turn.bind_eq_some_iff]

theorem Attempt.run_ofExcept_bind_eq_some_iff {x : Except EngineError α} {f : α → Attempt σ β}
    {s u : σ} {r : Except EngineError β} :
    (Attempt.ofExcept x >>= f).run s = some (r, u) ↔
      (∃ e, x = .error e ∧ r = .error e ∧ u = s) ∨ ∃ y, x = .ok y ∧ (f y).run s = some (r, u) := by
  cases x with
  | error e =>
    constructor
    · intro heq
      cases heq
      exact .inl ⟨e, rfl, rfl, rfl⟩
    · intro hx
      rcases hx with ⟨_, ⟨⟩, rfl, rfl⟩ | ⟨_, ⟨⟩, _⟩
      rfl
  | ok y =>
    constructor
    · exact fun h => .inr ⟨y, rfl, h⟩
    · intro hx
      rcases hx with ⟨_, ⟨⟩, _⟩ | ⟨_, ⟨⟩, h⟩
      exact h

/-! ## Following -/

/-- From `s` on, `b` gives whatever `a` gives, and `Q` holds of it. -/
def Follows (s : σ) (a b : Turn σ α) (Q : α → σ → Prop) : Prop :=
  ∀ r t, a s = some (r, t) → b s = some (r, t) ∧ Q r t

namespace Follows

variable {s : σ} {P Q : α → σ → Prop} {R : β → σ → Prop}

theorem weaken {a b : Turn σ α} (h : Follows s a b P) (hpq : ∀ r t, P r t → Q r t) :
    Follows s a b Q := by
  intro r t hrun
  obtain ⟨hb, hp⟩ := h r t hrun
  exact ⟨hb, hpq r t hp⟩

theorem known {a b : Turn σ α} (h : Follows s a b P) :
    Follows s a b fun r t => a s = some (r, t) ∧ P r t := by
  intro r t hrun
  obtain ⟨hb, hp⟩ := h r t hrun
  exact ⟨hb, hrun, hp⟩

/-- An action whose result is known follows itself. -/
theorem self {a : Turn σ α} {r : α} {t : σ} (ha : a s = some (r, t)) (h : Q r t) :
    Follows s a a Q := by
  intro r' t' hrun
  rw [ha] at hrun
  cases hrun
  exact ⟨ha, h⟩

theorem pure {r : α} (h : Q r s) : Follows s (pure r) (pure r) Q := self rfl h

theorem bind {a b : Turn σ α} {f g : α → Turn σ β} (h : Follows s a b P)
    (hf : ∀ r t, P r t → Follows t (f r) (g r) R) : Follows s (a >>= f) (b >>= g) R := by
  intro r t hrun
  obtain ⟨x, u, hx, hr⟩ := Turn.bind_eq_some_iff.1 hrun
  obtain ⟨hbx, hp⟩ := h x u hx
  obtain ⟨hgr, hq⟩ := hf x u hp r t hr
  exact ⟨Turn.bind_eq_some_iff.2 ⟨x, u, hbx, hgr⟩, hq⟩

/-- After an error nothing more is done. -/
theorem run_bind {a b : ExceptT ε (Turn σ) α} {f g : α → ExceptT ε (Turn σ) β}
    {P : Except ε α → σ → Prop} {R : Except ε β → σ → Prop} (h : Follows s a.run b.run P)
    (herror : ∀ e t, P (.error e) t → R (.error e) t)
    (hok : ∀ x t, P (.ok x) t → Follows t (f x).run (g x).run R) :
    Follows s (a >>= f).run (b >>= g).run R := by
  rw [ExceptT.run_bind, ExceptT.run_bind]
  refine h.bind fun r t hp => ?_
  cases r with
  | error e => exact .pure (herror e t hp)
  | ok x => exact hok x t hp

theorem lift_bind {a b : Turn σ α} {f g : α → ExceptT ε (Turn σ) β}
    {R : Except ε β → σ → Prop} (h : Follows s a b P)
    (hf : ∀ x t, P x t → Follows t (f x).run (g x).run R) :
    Follows s ((liftM a : ExceptT ε (Turn σ) α) >>= f).run
      ((liftM b : ExceptT ε (Turn σ) α) >>= g).run R := by
  rw [Turn.run_lift_bind, Turn.run_lift_bind]
  exact h.bind hf

/-- First an action whose result is known. -/
theorem step {a : Turn σ α} {f g : α → Turn σ β} {r : α} {t : σ} (ha : a s = some (r, t))
    (h : Follows t (f r) (g r) R) : Follows s (a >>= f) (a >>= g) R := by
  refine bind (P := fun r' t' => r' = r ∧ t' = t) (self ha ⟨rfl, rfl⟩) ?_
  intro _ _ hex
  obtain ⟨rfl, rfl⟩ := hex
  exact h

theorem lift_step {a : Turn σ α} {f g : α → ExceptT ε (Turn σ) β} {R : Except ε β → σ → Prop}
    {r : α} {t : σ} (ha : a s = some (r, t)) (h : Follows t (f r).run (g r).run R) :
    Follows s ((liftM a : ExceptT ε (Turn σ) α) >>= f).run
      ((liftM a : ExceptT ε (Turn σ) α) >>= g).run R := by
  rw [Turn.run_lift_bind, Turn.run_lift_bind]
  exact step ha h

theorem ofExcept_bind {r : Except EngineError α} {f g : α → Attempt σ β}
    {R : Except EngineError β → σ → Prop} (herror : ∀ e, r = .error e → R (.error e) s)
    (hok : ∀ x, r = .ok x → Follows s (f x).run (g x).run R) :
    Follows s (Attempt.ofExcept r >>= f).run (Attempt.ofExcept r >>= g).run R := by
  cases r with
  | error e => exact .pure (herror e rfl)
  | ok x => exact hok x rfl

end Follows

end EngineHost
