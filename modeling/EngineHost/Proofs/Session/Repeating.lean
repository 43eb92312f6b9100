import EngineHost.Proofs.Session.Unnoticed
import EngineHost.Proofs.Tracer.Outlining
/-
Traces that come again.  A computation depends on the outline of its engine and
on nothing else, so it can be repeated, by the same engine or by another one.
-/
namespace EngineHost

/-- A trace depends on its outline alone.  Take two engines, in two worlds or in
one, with the same settings, module, bindings and patches.  Their entries answer
by the name and the arguments, and their listeners, if there are any, accept
every item.  However often either of them has computed, shown its memory or
refused a request since, they compute the same: whatever the one comes to the
other comes to as well, and it is one result, whatever the budgets. -/
theorem computation_determined_by_outline {σ τ : Type} {x : Outline}
    {answer : EntryPoint → String → List Int64 → Except BindingFault Int32}
    {here : Place σ Tracer} {here' : Place τ Tracer} {id id' : EngineId} {P : σ → Prop}
    {P' : τ → Prop} {host : Host σ} {host' : Host τ} {s₀ s : σ} {y₀ y : τ}
    (h : Answering x answer here id P host) (h' : Answering x answer here' id' P' host')
    (hs : P s₀) (hy : P' y₀) (hidle : Relation.ReflTransGen (Idle here id P host) s₀ s)
    (hidle' : Relation.ReflTransGen (Idle here' id' P' host') y₀ y) :
    (∀ r, (∃ budget t, (Tracer.compute budget host here id).run s = some (r, t)) ↔
      ∃ budget z, (Tracer.compute budget host' here' id').run y = some (r, z)) ∧
    ∀ budget budget' r r' t z, (Tracer.compute budget host here id).run s = some (r, t) →
      (Tracer.compute budget' host' here' id').run y = some (r', z) → r = r' := by
  have hs := h.idles hs hidle
  have hy := h'.idles hy hidle'
  simp only [Tracer.compute_eq_some_iff]
  refine ⟨fun r => ⟨?_, ?_⟩, ?_⟩
  · intro hex
    obtain ⟨budget, t, hcompute⟩ := hex
    obtain ⟨z, hz, -⟩ := h.computing h' hs hy hcompute
    exact ⟨budget, z, hz⟩
  · intro hex
    obtain ⟨budget, z, hcompute⟩ := hex
    obtain ⟨t, ht, -⟩ := h'.computing h hy hs hcompute
    exact ⟨budget, t, ht⟩
  · intro budget budget' r r' t z hcompute hcompute'
    exact h.unique h' hs hy hcompute hcompute'

/-! ## Entries that answer by themselves -/

/-- A listener that accepts every item by itself. -/
def LogEntry.Accepting (entry : LogEntry) : Prop :=
  ∃ noted, entry = .standalone noted fun _ _ => .ok ()

/-- The engine has this outline, and a listener that accepts every item or none. -/
def Session.Outlined (x : Outline) (index : Nat) (id : EngineId) (s : Session) : Prop :=
  ∃ slot, x.At id ((foreignAt index).tracer.get s) slot ∧
    ∀ entry, slot.listener = some entry → entry.Accepting

theorem answering_of_standalone {go : Callback → Run Int32} {index : Nat} {id : EngineId}
    {x : Outline} {answer : EntryPoint → String → List Int64 → Except BindingFault Int32}
    (hentries : ∀ (name : String) b, x.bindings[name]? = some b →
      ∃ noted f, b.entry.target = .standalone noted f ∧ ∀ args,
        f id name (marshal id b.entry.path args) =
          answer b.entry name (marshal id b.entry.path args).args) :
    Answering x answer (foreignAt index).tracer id (Session.Outlined x index id)
      (sessionHost go) where
  planned s hs := by
    obtain ⟨slot, hslot, -⟩ := hs
    exact ⟨slot, hslot⟩
  entries name b hb args s hs := by
    obtain ⟨noted, f, htarget, hf⟩ := hentries name b hb
    simp only [sessionHost, htarget, hf]
    cases noted with
    | true => exact ⟨_, rfl, hs⟩
    | false => exact ⟨_, rfl, hs⟩
  listener s slot entry hs hslot hentry item t ht := by
    obtain ⟨other, hother, haccepting⟩ := hs
    cases hslot.symm.trans hother.there
    obtain ⟨noted, rfl⟩ := haccepting entry hentry
    simp only [sessionHost]
    cases noted with
    | true => exact ⟨_, rfl, ht⟩
    | false => exact ⟨_, rfl, ht⟩
  written s slot image hs hslot := by
    obtain ⟨other, hother, haccepting⟩ := hs
    cases hslot.symm.trans hother.there
    refine ⟨{ slot with image }, ⟨?_, ?_, hother.module_eq, hother.bindings_eq,
      hother.patches_eq⟩, haccepting⟩
    · rw [Place.get_set]
      exact hother.config_eq
    · rw [Place.get_set, Tracer.slots_setSlot, if_pos rfl]

/-- The sum of the arguments, for whatever name. -/
def sumAnswer (entry : EntryPoint) (_ : String) (args : List Int64) : Except BindingFault Int32 :=
  match entry.path with
  | .notify => .ok 0
  | _ => .ok (args.foldl (· + ·) 0).toInt32

/-- The outline of the guest whose start function makes a call. -/
def startingOutline : Outline where
  config := {}
  module := startingGuest
  bindings := startingSlot.bindings
  patches := []

theorem startingOutline_answering (id : EngineId) :
    Answering startingOutline sumAnswer summingPlace id (Session.Outlined startingOutline 0 id)
      summingHost := by
  refine answering_of_standalone fun name b hb => ?_
  obtain rfl := summingSlot_binding hb
  exact ⟨_, _, rfl, fun args => rfl⟩

/-- Another engine with this outline, which has no listener. -/
def quietSession : Session :=
  summingPlace.set ((heldTracer {}).setSlot ⟨2⟩ { startingSlot with listener := none })
    (heldSession {})

/-- Compute, look at the memory, and compute again.  The answer is whether all
of this goes as it should. -/
def Session.repeats (s : Session) (host : Host Session) (here : Place Session Tracer)
    (id : EngineId) : Option Bool := do
  let (first, s) ← Tracer.Request.compute.perform 20 host here id s
  let (shown, s) ← Tracer.Request.snapshot.perform 20 host here id s
  let (refused, s) ← (Tracer.Request.patch 0 1 ⟨#[7]⟩).perform 20 host here id s
  let (payload, _) ← (Tracer.compute 20 host here id).run s
  return !first.isFailed && !shown.isFailed && refused.isFailed && payload.toBool

theorem repeats_eq_true {s : Session} {host : Host Session} {here : Place Session Tracer}
    {id : EngineId} {P : Session → Prop} (h : s.repeats host here id = some true) :
    ∃ t payload u, Relation.ReflTransGen (Idle here id P host) s t ∧
      (Tracer.compute 20 host here id).run t = some (.ok payload, u) := by
  unfold Session.repeats at h
  simp only [Option.bind_eq_bind, Option.bind_eq_some_iff] at h
  obtain ⟨⟨first, s₁⟩, hfirst, ⟨shown, s₂⟩, hshown, ⟨refused, t⟩, hrefused, ⟨payload, u⟩, hpayload,
    h⟩ := h
  have h := Option.some.inj h
  simp only [Bool.and_eq_true, toBool_eq_true_iff] at h
  obtain ⟨⟨_, hfailed⟩, payload, rfl⟩ := h
  have hfailed : refused.Failed := by
    cases refused with
    | failed => trivial
    | done | bytes | flag => cases hfailed
  exact ⟨t, payload, u, .tail (.tail (.single (.computed hfirst)) (.shown hshown))
    (.failed hrefused hfailed), hpayload⟩

theorem quietSession_repeats : quietSession.repeats summingHost summingPlace ⟨2⟩ = some true := by
  decide +kernel

/-- The engine that has a listener and has not run yet computes what the engine
without one computes the second time. -/
theorem quietSession_computes_alike :
    Answering startingOutline sumAnswer summingPlace ⟨1⟩ (Session.Outlined startingOutline 0 ⟨1⟩)
        summingHost ∧
      Session.Outlined startingOutline 0 ⟨1⟩ (heldSession startingSlot) ∧
      Answering startingOutline sumAnswer summingPlace ⟨2⟩ (Session.Outlined startingOutline 0 ⟨2⟩)
        summingHost ∧
      Session.Outlined startingOutline 0 ⟨2⟩ quietSession ∧
      ∃ y payload,
        Relation.ReflTransGen (Idle summingPlace ⟨2⟩ (Session.Outlined startingOutline 0 ⟨2⟩)
          summingHost) quietSession y ∧
        (∃ budget t, (Tracer.compute budget summingHost summingPlace ⟨1⟩).run
          (heldSession startingSlot) = some (.ok payload, t)) ∧
        ∃ budget z, (Tracer.compute budget summingHost summingPlace ⟨2⟩).run y =
          some (.ok payload, z) := by
  have hfirst : Session.Outlined startingOutline 0 ⟨1⟩ (heldSession startingSlot) := by
    refine ⟨startingSlot, ⟨rfl, rfl, rfl, rfl, rfl⟩, fun entry hentry => ?_⟩
    cases hentry
    exact ⟨true, rfl⟩
  have hsecond : Session.Outlined startingOutline 0 ⟨2⟩ quietSession :=
    ⟨{ startingSlot with listener := none }, ⟨rfl, rfl, rfl, rfl, rfl⟩, nofun⟩
  obtain ⟨y, payload, u, hidle, hrun⟩ := repeats_eq_true quietSession_repeats
  have halike := computation_determined_by_outline (startingOutline_answering ⟨1⟩)
    (startingOutline_answering ⟨2⟩) hfirst hsecond .refl hidle
  exact ⟨startingOutline_answering ⟨1⟩, hfirst, startingOutline_answering ⟨2⟩, hsecond, y, payload,
    hidle, (halike.1 _).2 ⟨20, u, hrun⟩, 20, u, hrun⟩

end EngineHost
