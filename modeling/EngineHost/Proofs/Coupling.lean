import EngineHost.Proofs.Following
/-
Actions in two worlds, side by side.  Two actions are coupled if the second one
comes to the result of the first, and the worlds stay related as they were.  An
action that follows another in the same world is the simplest case.
-/
namespace EngineHost

section

variable {σ τ ε α β : Type}

/-- From `s` and `x` on, `b` gives the results that `a` gives, in worlds that are
related again. -/
def Coupled (R : σ → τ → Prop) (s : σ) (x : τ) (a : Turn σ α) (b : Turn τ α) : Prop :=
  ∀ r t, a s = some (r, t) → ∃ y, b x = some (r, y) ∧ R t y

/-- Coupled in all worlds that are related. -/
def CoupledIn (R : σ → τ → Prop) (a : Turn σ α) (b : Turn τ α) : Prop :=
  ∀ s x, R s x → Coupled R s x a b

namespace Coupled

variable {R : σ → τ → Prop} {s : σ} {x : τ}

theorem weaken {Q : σ → τ → Prop} {a : Turn σ α} {b : Turn τ α} (h : Coupled R s x a b)
    (hRQ : ∀ t y, R t y → Q t y) : Coupled Q s x a b := by
  intro r t hrun
  obtain ⟨y, hb, hy⟩ := h r t hrun
  exact ⟨y, hb, hRQ t y hy⟩

theorem pure (h : R s x) (r : α) : Coupled R s x (pure r) (pure r) := by
  intro r' t hrun
  cases hrun
  exact ⟨x, rfl, h⟩

theorem bind {a : Turn σ α} {b : Turn τ α} {f : α → Turn σ β} {g : α → Turn τ β}
    (h : Coupled R s x a b) (hf : ∀ r, CoupledIn R (f r) (g r)) :
    Coupled R s x (a >>= f) (b >>= g) := by
  intro r t hrun
  obtain ⟨r', u, ha, hr⟩ := Turn.bind_eq_some_iff.1 hrun
  obtain ⟨y, hb, hy⟩ := h r' u ha
  obtain ⟨z, hg, hz⟩ := hf r' u y hy r t hr
  exact ⟨z, Turn.bind_eq_some_iff.2 ⟨r', y, hb, hg⟩, hz⟩

/-- First actions whose results are known, and need not be the same. -/
theorem step {α' : Type} {a : Turn σ α} {b : Turn τ α'} {f : α → Turn σ β} {g : α' → Turn τ β}
    {r : α} {r' : α'} {t : σ} {y : τ} (ha : a s = some (r, t)) (hb : b x = some (r', y))
    (h : Coupled R t y (f r) (g r')) : Coupled R s x (a >>= f) (b >>= g) := by
  intro r₁ t₁ hrun
  rw [Turn.bind_eq_of_eq_some ha] at hrun
  rw [Turn.bind_eq_of_eq_some hb]
  exact h r₁ t₁ hrun

/-- After an error nothing more is done. -/
theorem run_bind {a : ExceptT ε (Turn σ) α} {b : ExceptT ε (Turn τ) α}
    {f : α → ExceptT ε (Turn σ) β} {g : α → ExceptT ε (Turn τ) β}
    (h : Coupled R s x a.run b.run) (hf : ∀ r, CoupledIn R (f r).run (g r).run) :
    Coupled R s x (a >>= f).run (b >>= g).run := by
  rw [ExceptT.run_bind, ExceptT.run_bind]
  refine h.bind fun r t y hty => ?_
  cases r with
  | error e => exact .pure hty _
  | ok r => exact hf r t y hty

theorem lift_bind {a : Turn σ α} {b : Turn τ α} {f : α → ExceptT ε (Turn σ) β}
    {g : α → ExceptT ε (Turn τ) β} (h : Coupled R s x a b)
    (hf : ∀ r, CoupledIn R (f r).run (g r).run) :
    Coupled R s x ((liftM a : ExceptT ε (Turn σ) α) >>= f).run
      ((liftM b : ExceptT ε (Turn τ) α) >>= g).run := by
  rw [Turn.run_lift_bind, Turn.run_lift_bind]
  exact h.bind hf

theorem lift_step {α' : Type} {a : Turn σ α} {b : Turn τ α'} {f : α → ExceptT ε (Turn σ) β}
    {g : α' → ExceptT ε (Turn τ) β} {r : α} {r' : α'} {t : σ} {y : τ} (ha : a s = some (r, t))
    (hb : b x = some (r', y)) (h : Coupled R t y (f r).run (g r').run) :
    Coupled R s x ((liftM a : ExceptT ε (Turn σ) α) >>= f).run
      ((liftM b : ExceptT ε (Turn τ) α') >>= g).run := by
  rw [Turn.run_lift_bind, Turn.run_lift_bind]
  exact step ha hb h

/-- First results that are known, and need not be the same. -/
theorem ofExcept_step {α' : Type} {f : α → Attempt σ β} {g : α' → Attempt τ β} {v : α} {v' : α'}
    (h : Coupled R s x (f v).run (g v').run) :
    Coupled R s x (Attempt.ofExcept (.ok v) >>= f).run (Attempt.ofExcept (.ok v') >>= g).run := h

theorem ofExcept_bind (h : R s x) {r : Except EngineError α} {f : α → Attempt σ β}
    {g : α → Attempt τ β} (hok : ∀ v, r = .ok v → Coupled R s x (f v).run (g v).run) :
    Coupled R s x (Attempt.ofExcept r >>= f).run (Attempt.ofExcept r >>= g).run := by
  cases r with
  | error e => exact .pure h _
  | ok v => exact hok v rfl

end Coupled

end

end EngineHost
