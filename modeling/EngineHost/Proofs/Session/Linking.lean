import EngineHost.Proofs.Session.Replaying
import EngineHost.Proofs.Tracer.Supplying
/-
Linking behind a handle.  A computation is answered with an error of linking
exactly when the imports or the memory of the module are at fault, and the
answer has the reason in it.  A name that is imported twice is such a fault,
even if both imports are served.
-/
namespace EngineHost

/-- Carrying out a plan fails in linking if the plan cannot be linked, and in no
other way. -/
theorem carryOut_link_iff {σ : Type} {budget : Nat} {host : Host σ} {config : TracerConfig}
    {plan : Plan} {s t : σ} {reason : String} :
    (carryOut budget host config plan).run s = some (.error (.link reason), t) ↔
      link config plan.bindings plan.module = .error (.link reason) ∧ t = s := by
  constructor
  · intro hrun
    generalize hr : (Except.error (EngineError.link reason) : Except EngineError Execution) = r
      at hrun
    cases carryOut_eq_some_iff.1 hrun with
    | unlinked hlink =>
      cases hr
      exact ⟨hlink, rfl⟩
    | unready _ _ _ hready =>
      cases hr
      obtain ⟨_, _, _, ⟨⟩⟩ := (prepareMemory_error hready).1
    | stoppedEarly | faultedEarly | noEntry | faulted | finished => cases hr
  · intro h
    obtain ⟨hlink, rfl⟩ := h
    exact carryOut_eq_some_iff.2 (.unlinked hlink)

/-- A computation is answered with an error of linking for the first fault that
linking comes to, and for nothing else.  Where there is none, every import gets
its definition: a binding before a halting import, stopping before reverting.
There is none exactly if each name is supplied and imported once, the bound
imports have the types of their shapes, and the memory is within its limit. -/
theorem compute_link_error_iff {s : Session} {name : String} {handle : Handle} {tracer : Tracer}
    {slot : TracerSlot} {m : Guest.Module} (h : s.Ready name handle tracer slot m) :
    (∀ reason, s.Answers (.handle name .compute) (.hostError (.engine (.link reason))) ↔
      LinkFault tracer.config slot.bindings m reason) ∧
    (Linkable tracer.config slot.bindings m ↔
      ∀ reason, ¬ LinkFault tracer.config slot.bindings m reason) ∧
    (Linkable tracer.config slot.bindings m →
      ∃ linked, link tracer.config slot.bindings m = .ok linked ∧
        List.Forall₂ (fun i l => l.Meets tracer.config slot.bindings i) m.imports linked) := by
  refine ⟨fun reason => ?_, linkable_iff h.accepted, fun hlinkable => hlinkable.links h.accepted⟩
  rw [h.answers_carryOut_iff]
  constructor
  · intro hex
    obtain ⟨steps, budget, depth, r, t, hrun, hr⟩ := hex
    obtain rfl : r = .error (.link reason) := by
      cases r with
      | ok done => cases Answer.ofPayload_engine hr
      | error e =>
        cases Answer.ofPayload_engine hr
        rfl
    obtain ⟨_, heq, hfault⟩ := (link_eq_error_iff h.accepted).1 (carryOut_link_iff.1 hrun).1
    cases heq
    exact hfault
  · intro hfault
    exact ⟨0, 0, 0, _, s, carryOut_link_iff.2 ⟨hfault.link_eq h.accepted, rfl⟩, rfl⟩

/-! ## Halting imports that are bound, and names that come twice -/

/-- A guest that imports both halting imports. -/
def haltingGuest : Guest.Module where
  imports := [⟨"env", "_evm_revert", .func {}⟩, ⟨"env", "_evm_stop", .func { results := [.i32] }⟩]
  funcs := #[{}]
  exports := [⟨"main", .func, 2⟩]

/-- One of them is bound here. -/
def haltingSlot : TracerSlot where
  module := some haltingGuest
  bindings := (∅ : Bindings).insert "_evm_stop" { shape := .i32 0, entry := .summing .i32 }

theorem haltingSlot_linkable : Linkable {} haltingSlot.bindings haltingGuest where
  definable := by
    have hrevert : Supplied {} haltingSlot.bindings "_evm_revert" := .inr (.inr rfl)
    have hstop : Supplied {} haltingSlot.bindings "_evm_stop" := .inr (.inl rfl)
    exact ⟨List.forall_mem_cons.2 ⟨hrevert, List.forall_mem_singleton.2 hstop⟩, by decide⟩
  fitting := by
    have hbound (name : String) (b : Binding) (hb : haltingSlot.bindings[name]? = some b) :
        name = "_evm_stop" ∧ b.shape = .i32 0 := by
      change ((∅ : Bindings).insert "_evm_stop" _)[name]? = some b at hb
      rw [Std.ExtTreeMap.getElem?_insert, Std.ExtTreeMap.getElem?_empty] at hb
      split at hb
      · cases hb
        simp_all
      · cases hb
    refine List.forall_mem_cons.2 ⟨fun b hb => ?_, List.forall_mem_singleton.2 fun b hb => ?_⟩
    · exact absurd (hbound _ b hb).1 (by decide)
    · rw [(hbound _ b hb).2]
      rfl
  roomy := nofun

/-- The binding serves the import that would have stopped the guest. -/
theorem haltingSlot_linked :
    (heldSession haltingSlot).Ready "a" { id := ⟨1⟩, foreign := 0 } (heldTracer haltingSlot)
        haltingSlot haltingGuest ∧
      (∀ reason, ¬ (heldSession haltingSlot).Answers (.handle "a" .compute)
        (.hostError (.engine (.link reason)))) ∧
      ∃ linked, link {} haltingSlot.bindings haltingGuest = .ok linked ∧
        List.Forall₂ (fun i l => l.Meets {} haltingSlot.bindings i) haltingGuest.imports linked := by
  have hready : (heldSession haltingSlot).Ready "a" { id := ⟨1⟩, foreign := 0 }
      (heldTracer haltingSlot) haltingSlot haltingGuest := heldSession_ready rfl (by rfl)
  obtain ⟨hanswers, hlinkable, hlinked⟩ := compute_link_error_iff hready
  refine ⟨hready, fun reason hanswered => ?_, hlinked haltingSlot_linkable⟩
  exact hlinkable.1 haltingSlot_linkable reason ((hanswers reason).1 hanswered)

/-- A guest that imports one function under one name twice. -/
def repeatingGuest : Guest.Module where
  imports := [⟨"env", "f", .func { results := [.i32] }⟩, ⟨"env", "f", .func { results := [.i32] }⟩]
  funcs := #[{}]
  exports := [⟨"main", .func, 2⟩]

def repeatingOps : List Op := [
  .handle "a" (.create 0),
  .handle "a" (.register "f" (.i32 0 fun _ => .done 7)),
  .handle "a" (.install (.described repeatingGuest)),
  .handle "a" .compute]

def Answer.link? : Answer → Option String
  | .hostError (.engine (.link reason)) => some reason
  | _ => none

/-- Both imports are served under the type of their shape, and there is no
memory, but linking fails. -/
theorem repeatingOps_defined_twice :
    (∀ i ∈ repeatingGuest.imports, i.name = "f" ∧ i.kind = .func (CallShape.i32 0).funcType) ∧
      repeatingGuest.memories = [] ∧
      ((tracingSession {}).transcript 20 2 repeatingOps).map
          (·.map fun entry => (entry.1.isOk, entry.1.link?)) =
        some [(false, none), (true, none), (true, none),
          (false, some "bind 'f': import of `env::f` defined twice")] := by
  decide +kernel

end EngineHost
