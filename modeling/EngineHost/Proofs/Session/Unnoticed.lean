import EngineHost.Proofs.Session.Witnessing
import EngineHost.Proofs.Tracer.Failing
/-
Failures that nobody can notice.  After a request that failed, everything is
responded to as if it had not been made, as long as the entries are functions of
the call.  In a session these are the entries that answer by themselves.
-/
namespace EngineHost

/-- A request that fails leaves no trace.  Whatever is requested afterwards, of
any engine, is responded to as it would have been without the failure, as long
as no import is bound and no listener armed in between.  The engines are what
they were, but for an image that was captured for a patch that did not fit: it
is the image that a snapshot would have shown. -/
theorem failed_request_leaves_no_trace {σ : Type} {here : Place σ Tracer} {P : σ → Prop}
    {host : Host σ} {id : EngineId} {s t : σ} {budget : Nat} {request : Tracer.Request}
    {r : Tracer.Response} (hwritten : ∀ s tracer, P s → P (here.set tracer s)) (hs : P s)
    (hdetached : (here.get s).Detached here P host)
    (hrun : request.perform budget host here id s = some (r, t)) (hfailed : r.Failed) :
    (∀ later, (∀ q ∈ later, ¬ q.2.1.Rebinds) →
      (Tracer.Responds host here s later ↔ Tracer.Responds host here t later)) ∧
    Left host here id request s t := by
  obtain ⟨hindistinct, hleft⟩ := indistinct_of_failed hwritten hs hdetached hrun hfailed
  refine ⟨fun later hkeep => ⟨?_, ?_⟩, hleft⟩
  · exact hindistinct.responds hwritten hkeep
  · exact hindistinct.symm.responds hwritten hkeep

/-! ## Entries that answer by themselves -/

section

variable {go : Callback → Run Int32} {index : Nat} {id : EngineId}

/-- A mark in the session is nothing to the engines. -/
theorem noted_detached {α : Type} (noted : Bool) (e : Event) (r : α) :
    Detached (foreignAt index).tracer (fun _ => True)
      (do
        if noted then note e
        return r) (some r) := by
  intro s _
  cases noted with
  | true => exact ⟨rfl, fun r t hrun => by cases hrun; exact ⟨trivial, rfl⟩⟩
  | false => exact ⟨rfl, fun r t hrun => by cases hrun; exact ⟨trivial, rfl⟩⟩

theorem enter_detached {entry : EntryPoint} {noted : Bool}
    {answer : EngineId → String → RawCall → Except BindingFault Int32}
    (htarget : entry.target = .standalone noted answer) (name : String) (call : RawCall) :
    Detached (foreignAt index).tracer (fun _ => True) ((sessionHost go).enter entry id name call)
      (some (answer id name call)) := by
  simp only [sessionHost, htarget]
  exact noted_detached noted _ _

theorem deliver_detached (noted : Bool) (answer : EngineId → ByteArray → Except BindingFault Unit)
    (item : ByteArray) :
    Detached (foreignAt index).tracer (fun _ => True)
      ((sessionHost go).deliver (.standalone noted answer) id item) (some (answer id item)) :=
  noted_detached noted _ _

/-- A slot whose entries all answer by themselves. -/
theorem detached_of_standalone {slot : TracerSlot}
    (hentries : ∀ (name : String) b, slot.bindings[name]? = some b →
      b.entry.target ≠ .dispatcher)
    (hlistener : slot.listener ≠ some .dispatcher) :
    slot.Detached (foreignAt index).tracer (fun _ => True) (sessionHost go) id where
  entries name b hb call := by
    cases htarget : b.entry.target with
    | dispatcher => exact absurd htarget (hentries name b hb)
    | standalone noted answer => exact ⟨_, enter_detached htarget name call⟩
  listener entry hentry item := by
    cases entry with
    | dispatcher => exact absurd hentry hlistener
    | standalone noted answer => exact ⟨_, deliver_detached noted answer item⟩

end

/-- A guest whose start function makes a call.  It shows a memory of no bytes. -/
def startingGuest : Guest.Module where
  imports := [⟨"env", "sum", .func { params := [.i32, .i32], results := [.i32] }⟩]
  memories := [{ min := 0 }]
  funcs := #[{ code := [.const32 3, .const32 4, .call 0, .drop] }, {}]
  exports := [⟨"main", .func, 2⟩, ⟨"memory", .memory, 0⟩]
  start := some 1

def startingSlot : TracerSlot := { summingSlot with module := some startingGuest }

theorem startingSlot_detached :
    (summingPlace.get (heldSession startingSlot)).Detached summingPlace (fun _ => True)
      summingHost := by
  intro id slot hslot
  change ((∅ : EngineTable TracerSlot).insert ⟨1⟩ startingSlot)[id]? = some slot at hslot
  rw [Std.ExtTreeMap.getElem?_insert, Std.ExtTreeMap.getElem?_empty] at hslot
  split at hslot
  · cases hslot
    refine detached_of_standalone (fun name b hb => ?_) nofun
    obtain rfl := summingSlot_binding hb
    nofun
  · cases hslot

/-- A patch that does not fit, on a slot that has no image yet. -/
abbrev startingPatch : Tracer.Request := .patch 0 1 ⟨#[7]⟩

def Tracer.Response.isFailed : Tracer.Response → Bool
  | .failed _ => true
  | _ => false

theorem startingPatch_fails :
    (startingPatch.perform 20 summingHost summingPlace ⟨1⟩ (heldSession startingSlot)).any (fun p =>
      p.1.isFailed && (p.2.slotAt? ⟨0, ⟨1⟩⟩).any (·.image.isSome)) = true := by
  decide +kernel

/-- It fails after its image was captured, and nothing can be noticed of it. -/
theorem startingPatch_unnoticed :
    (summingPlace.get (heldSession startingSlot)).Detached summingPlace (fun _ => True)
        summingHost ∧
      ∃ e t, startingPatch.perform 20 summingHost summingPlace ⟨1⟩ (heldSession startingSlot) =
          some (.failed e, t) ∧
        (t.slotAt? ⟨0, ⟨1⟩⟩).any (·.image.isSome) = true ∧
        (∀ later, (∀ q ∈ later, ¬ q.2.1.Rebinds) →
          (Tracer.Responds summingHost summingPlace (heldSession startingSlot) later ↔
            Tracer.Responds summingHost summingPlace t later)) ∧
        Left summingHost summingPlace ⟨1⟩ startingPatch (heldSession startingSlot) t := by
  obtain ⟨⟨r, t⟩, hrun, h⟩ := (Option.any_eq_true _ _).1 startingPatch_fails
  rw [Bool.and_eq_true] at h
  cases r with
  | failed e =>
    exact ⟨startingSlot_detached, e, t, hrun, h.2,
      failed_request_leaves_no_trace (fun _ _ _ => trivial) trivial startingSlot_detached hrun
        trivial⟩
  | done | bytes | flag => cases h.1

end EngineHost
