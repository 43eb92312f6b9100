import EngineHost.Proofs.Tracer.Slots
import EngineHost.Proofs.Tracer.Traced
/-
Stateless entries.  Such an entry answers a call by what the call is, and it
leaves the engine alone that the call came from.  A guest whose calls all go to
stateless entries does the same in every fresh instance, whatever the world
around it is and however large its budget.
-/
namespace EngineHost

/-- An engine has the same slot in both, and the settings are the same. -/
def Tracer.Same (id : EngineId) (t t' : Tracer) : Prop :=
  t'.config = t.config ∧ t'.slots[id]? = t.slots[id]?

namespace Tracer.Same

variable {id : EngineId} {t t' t'' : Tracer}

theorem refl : Same id t t := ⟨rfl, rfl⟩

theorem trans (h : Same id t t') (h' : Same id t' t'') : Same id t t'' :=
  ⟨h'.1.trans h.1, h'.2.trans h.2⟩

end Tracer.Same

section

variable {σ : Type} (here : Place σ Tracer) (id : EngineId) (P : σ → Prop)

/-- In the worlds that `P` tells of, the action has this result or none.  It
stays in such worlds, and leaves the engine alone. -/
def Inert {α : Type} (a : Turn σ α) (r : α) : Prop :=
  ∀ s, P s → ∀ r' t, a s = some (r', t) → r' = r ∧ P t ∧ (here.get s).Same id (here.get t)

/-- All that the guest of a slot can call is stateless, and so is the listener.
Changes of engines do not lead out of the worlds in question. -/
structure Stateless (host : Host σ) (slot : TracerSlot) : Prop where
  entries : ∀ name b, slot.bindings[name]? = some b → ∀ call,
    ∃ answer, Inert here id P (host.enter b.entry id name call) answer
  listener : ∀ entry, slot.listener = some entry → ∀ item,
    ∃ answer, Inert here id P (host.deliver entry id item) answer
  written : ∀ s tracer, P s → P (here.set tracer s)

end

section

variable {σ α β : Type} {here : Place σ Tracer} {id : EngineId} {P : σ → Prop}

namespace Inert

theorem pure {r : α} : Inert here id P (pure r) r := by
  intro s hs r' t heq
  cases heq
  exact ⟨rfl, hs, .refl⟩

theorem bind {a : Turn σ α} {f : α → Turn σ β} {x : α} {r : β} (ha : Inert here id P a x)
    (hf : Inert here id P (f x) r) : Inert here id P (a >>= f) r := by
  intro s hs r' u hrun
  obtain ⟨y, t, hy, hr⟩ := Turn.bind_eq_some_iff.1 hrun
  obtain ⟨rfl, ht, hsame⟩ := ha s hs y t hy
  obtain ⟨hr', hu, hsame'⟩ := hf t ht r' u hr
  exact ⟨hr', hu, hsame.trans hsame'⟩

theorem map {a : Turn σ α} {f : α → β} {x : α} (ha : Inert here id P a x) :
    Inert here id P (a >>= fun y => Pure.pure (f y)) (f x) := ha.bind .pure

end Inert

/-! ## Calls of the guest -/

variable {host : Host σ} {slot : TracerSlot} (h : Stateless here id P host slot)
  {m : Guest.Module}

include h

theorem recordCall_inert (trace : Trace) (name : String) (args : List Int64)
    (result : Option Int32) :
    ∃ r, Inert here id P (recordCall host (slot.planOf id m) trace name args result) r := by
  unfold recordCall
  simp only [TracerSlot.planOf]
  cases hlistener : slot.listener with
  | none => exact ⟨_, Inert.pure⟩
  | some entry =>
    obtain ⟨answer, hanswer⟩ := h.listener entry hlistener _
    exact ⟨_, hanswer.map⟩

theorem serve_inert {name : String} {b : Binding} (hb : slot.bindings[name]? = some b)
    (args : List Guest.Value) (trace : Trace) :
    ∃ r, Inert here id P (serve host (slot.planOf id m) name b args trace) r := by
  obtain ⟨answer, hanswer⟩ := h.entries name b hb (marshal id b.entry.path args)
  unfold serve
  cases answer with
  | error cause => exact ⟨_, hanswer.bind .pure⟩
  | ok value =>
    obtain ⟨r, hr⟩ := recordCall_inert h trace name _ _
    exact ⟨_, hanswer.bind hr.map⟩

theorem serveImport_inert {config : TracerConfig} {linked : List Linked}
    (hlinked : ∀ l ∈ linked, l.MadeFrom config slot.bindings) (index : Nat)
    (args : List Guest.Value) (trace : Trace) :
    ∃ r, Inert here id P (serveImport host (slot.planOf id m) linked index args trace) r := by
  unfold serveImport
  cases hl : linked[index]? with
  | none => exact ⟨_, Inert.pure⟩
  | some l =>
    cases hlinked l (List.mem_of_getElem? hl) with
    | halting hnone hhalt => exact ⟨_, Inert.pure⟩
    | bound hb =>
      obtain ⟨r, hr⟩ := serve_inert h hb args trace
      exact ⟨_, hr.map⟩

/-! ## Runs -/

omit h in
/-- A call with an inert answer ends a run, or the run goes on with it. -/
theorem runGuest_host_of_inert {plan : Plan} {env : Guest.Env} {linked : List Linked}
    {budget index : Nat} {args : List Guest.Value} {y : Guest.Machine} {trace : Trace} {s t : σ}
    {stage : Stage} {answer : Except Stopped (List Guest.Value) × Trace}
    (hanswer : Inert here id P (serveImport host plan linked index args trace) answer) (hs : P s)
    (hrun : runGuest host plan env linked (budget + 1) (.host index args y) trace s =
      some (stage, t)) :
    (∃ why trace', answer = (.error why, trace') ∧ stage = ⟨why, y, trace'⟩ ∧ P t ∧
        (here.get s).Same id (here.get t)) ∨
      ∃ results trace' u, answer = (.ok results, trace') ∧ P u ∧
        (here.get s).Same id (here.get u) ∧
          runGuest host plan env linked budget (.next (y.resume results)) trace' u =
            some (stage, t) := by
  rcases runGuest_host_eq_some_iff.1 hrun with
    ⟨why, trace', hserve, hstage⟩ | ⟨results, trace', u, hserve, hrest⟩
  · obtain ⟨heq, ht, hsame⟩ := hanswer s hs _ _ hserve
    exact .inl ⟨why, trace', heq.symm, hstage, ht, hsame⟩
  · obtain ⟨heq, hu, hsame⟩ := hanswer s hs _ _ hserve
    exact .inr ⟨results, trace', u, heq.symm, hu, hsame, hrest⟩

/-- A run that has come to an end once comes to that end from all the worlds in
question, under whatever budget it comes to an end. -/
theorem runGuest_inert {config : TracerConfig} {env : Guest.Env} {linked : List Linked}
    (hlinked : ∀ l ∈ linked, l.MadeFrom config slot.bindings) {budget : Nat} {x : Guest.Step}
    {trace : Trace} {s t : σ} {stage : Stage} (hs : P s)
    (hrun : runGuest host (slot.planOf id m) env linked budget x trace s = some (stage, t))
    (budget' : Nat) :
    Inert here id P (runGuest host (slot.planOf id m) env linked budget' x trace) stage := by
  -- On the budget of the run that is known.  The other run takes the same steps, since each of
  -- its calls is answered in the same way.
  induction budget generalizing x trace s budget' with
  | zero => cases hrun
  | succ budget ih =>
    intro s' hs' stage' t' hrun'
    cases budget' with
    | zero => cases hrun'
    | succ budget' =>
      cases x with
      | next y => exact ih hs hrun budget' s' hs' stage' t' hrun'
      | ended how y =>
        cases hrun
        cases hrun'
        exact ⟨rfl, hs', .refl⟩
      | host index args y =>
        obtain ⟨answer, hanswer⟩ := serveImport_inert h hlinked index args trace
        rcases runGuest_host_of_inert hanswer hs hrun with
          ⟨why, trace₁, hwhy, rfl, -, -⟩ | ⟨results, trace₁, u, hresults, hu, -, hrest⟩
        · rcases runGuest_host_of_inert hanswer hs' hrun' with
            ⟨_, _, hwhy', rfl, ht', hsame⟩ | ⟨_, _, _, hresults', _⟩
          · cases hwhy.symm.trans hwhy'
            exact ⟨rfl, ht', hsame⟩
          · cases hwhy.symm.trans hresults'
        · rcases runGuest_host_of_inert hanswer hs' hrun' with
            ⟨_, _, hwhy', _⟩ | ⟨_, _, u', hresults', hu', hsame, hrest'⟩
          · cases hresults.symm.trans hwhy'
          · cases hresults.symm.trans hresults'
            obtain ⟨hstage, ht', hsame'⟩ := ih hu hrest budget' u' hu' stage' t' hrest'
            exact ⟨hstage, ht', hsame.trans hsame'⟩

theorem instantiate_inert {config : TracerConfig} {linked : List Linked}
    (hlinked : ∀ l ∈ linked, l.MadeFrom config slot.bindings) {budget : Nat} {s t : σ}
    {stage : Stage} (hs : P s)
    (hstart : instantiate budget host config (slot.planOf id m) linked s = some (stage, t))
    (budget' : Nat) :
    Inert here id P (instantiate budget' host config (slot.planOf id m) linked) stage := by
  unfold instantiate at hstart ⊢
  cases hfill : placeSegments ((slot.planOf id m).module.machine config).memory
      (slot.planOf id m).module.segments with
  | none =>
    simp only [hfill] at hstart ⊢
    cases hstart
    exact .pure
  | some memory =>
    cases hfunction : (slot.planOf id m).module.start with
    | none =>
      simp only [hfill, hfunction] at hstart ⊢
      cases hstart
      exact .pure
    | some f =>
      simp only [hfill, hfunction] at hstart ⊢
      exact runGuest_inert h hlinked hs hstart budget'

end

end EngineHost
