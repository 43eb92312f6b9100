import EngineHost.Proofs.Session.Bridging
/-
Engines of a bridged session do not fail with a fault.  What they do of their
own fails with errors of their own, and a run of a guest, in the start function
or in the entry export, is never answered with one.
-/
namespace EngineHost

/-! ## Errors that are no faults -/

/-- An error that does not carry a fault of the host. -/
def EngineError.Own (e : EngineError) : Prop := ∀ cause, e ≠ .fault cause

theorem checkLength_error {length : UInt32} {data : ByteArray} {e : EngineError}
    (h : checkLength length data = .error e) : e.Own := by
  rw [checkLength_eq_error h]
  intro cause heq
  cases heq

theorem Patch.make_error {offset length : UInt32} {data : ByteArray} {e : EngineError}
    (h : Patch.make offset length data = .error e) : e.Own := by
  rw [Patch.make_eq_error h]
  intro cause heq
  cases heq

theorem readAt_error {memory : ByteArray} {offset length : UInt32} {e : EngineError}
    (h : readAt memory offset length = .error e) : e.OfBounds := by
  rcases bind_eq_error_iff.1 h with h | ⟨_, _, ⟨⟩⟩
  exact rangeIn_error h

theorem EngineError.OfBounds.own {e : EngineError} (h : e.OfBounds) : e.Own := by
  obtain ⟨_, _, _, rfl⟩ := h
  intro cause heq
  cases heq

namespace Tracer

variable {t : Tracer} {id : EngineId} {e : EngineError}

theorem slot_error (h : t.slot id = .error e) : e.Own := by
  obtain ⟨_, rfl⟩ := slot_eq_error_iff.1 h
  intro cause heq
  cases heq

theorem plan_error (h : t.plan id = .error e) : e.Own := by
  rcases bind_eq_error_iff.1 h with h | ⟨s, _, h⟩
  · exact slot_error h
  · split at h
    · cases h
      intro cause heq
      cases heq
    · cases h

theorem install_error {binary : Guest.Binary} (h : t.install id binary = .error e) : e.Own := by
  rcases bind_eq_error_iff.1 h with h | ⟨s, _, h⟩
  · exact slot_error h
  rcases bind_eq_error_iff.1 h with h | ⟨m, _, h⟩
  · cases hcompile : binary.compile with
    | error flaw =>
      rw [hcompile] at h
      cases h
      intro cause heq
      cases heq
    | ok m =>
      rw [hcompile] at h
      cases h
  rcases bind_eq_error_iff.1 h with h | ⟨_, _, ⟨⟩⟩
  obtain ⟨reason, rfl⟩ := approve_error h
  intro cause heq
  cases heq

end Tracer

namespace Scripted

variable {s : Scripted} {id : EngineId} {e : EngineError}

theorem slot_error (h : s.slot id = .error e) : e.Own := by
  unfold slot at h
  split at h
  · cases h
  · cases h
    intro cause heq
    cases heq

theorem install_error {binary : Guest.Binary} (h : s.install id binary = .error e) : e.Own := by
  rcases bind_eq_error_iff.1 h with h | ⟨_, _, ⟨⟩⟩
  exact slot_error h

theorem compute_error (h : s.compute id = .error e) : e.Own := by
  rcases bind_eq_error_iff.1 h with h | ⟨slot, _, h⟩
  · exact slot_error h
  · split at h
    · cases h
      intro cause heq
      cases heq
    · cases h

theorem snapshot_error (h : s.snapshot id = .error e) : e.Own := by
  rcases bind_eq_error_iff.1 h with h | ⟨_, _, ⟨⟩⟩
  exact slot_error h

theorem patch_error {offset length : UInt32} {data : ByteArray}
    (h : s.patch id offset length data = .error e) : e.Own := by
  rcases bind_eq_error_iff.1 h with h | ⟨slot, _, h⟩
  · exact slot_error h
  rcases bind_eq_error_iff.1 h with h | ⟨_, _, h⟩
  · exact checkLength_error h
  rcases bind_eq_error_iff.1 h with h | ⟨_, _, ⟨⟩⟩
  exact (rangeIn_error h).own

end Scripted

theorem Foreign.install_error {f : Foreign} {id : EngineId} {binary : Guest.Binary}
    {e : EngineError} (h : f.install id binary = .error e) : e.Own := by
  unfold install at h
  cases f with
  | scripted s | pinned s =>
    dsimp only at h
    cases hinstall : s.install id binary with
    | ok s' =>
      rw [hinstall] at h
      cases h
    | error e' =>
      rw [hinstall] at h
      cases h
      exact Scripted.install_error hinstall
  | tracing t =>
    dsimp only at h
    cases hinstall : t.install id binary with
    | ok t' =>
      rw [hinstall] at h
      cases h
    | error e' =>
      rw [hinstall] at h
      cases h
      exact Tracer.install_error hinstall

/-! ## Engines that run guests -/

/-- From `s` on, the action does not end in a fault. -/
def Faultless {α : Type} (s : Session) (a : Attempt Session α) : Prop :=
  Follows s a.run a.run fun r _ => ∀ e, r = .error e → e.Own

namespace Faultless

variable {α β : Type} {s : Session}

theorem pure {x : α} : Faultless s (pure x) := Follows.pure fun _ h => nomatch h

theorem ofExcept {r : Except EngineError α} (hr : ∀ e, r = .error e → e.Own) :
    Faultless s (.ofExcept r) := Follows.pure hr

theorem ofExcept_bind {r : Except EngineError α} {f : α → Attempt Session β}
    (hr : ∀ e, r = .error e → e.Own) (hf : ∀ x, r = .ok x → Faultless s (f x)) :
    Faultless s (Attempt.ofExcept r >>= f) := by
  refine Follows.ofExcept_bind ?_ hf
  intro e he _ heq
  cases heq
  exact hr e he

theorem bind {a : Attempt Session α} {f : α → Attempt Session β} (ha : Faultless s a)
    (hf : ∀ x t, Faultless t (f x)) : Faultless s (a >>= f) := by
  refine Follows.run_bind ha ?_ fun x t _ => hf x t
  intro e _ he _ heq
  cases heq
  exact he e rfl

end Faultless

/-- A slot's plan is as good as the slot. -/
theorem plan_bridged {s : Session} (hs : s.Bridged) {site : Site} {plan : Plan}
    (hplan : ((foreignAt site.foreign).tracer.get s).plan site.id = .ok plan) :
    plan.module.flaw? = none ∧ plan.Bridged s.directory := by
  obtain ⟨slot, m, hslot, hmodule, rfl⟩ := Tracer.plan_eq_ok_iff.1 hplan
  have hslot : s.slotAt? site = some slot := Session.slotAt?_eq_some_iff.2 hslot
  have hbridge := hs.slots site slot hslot
  exact ⟨hbridge.module m hmodule, hbridge.bindings, hbridge.listener⟩

section

variable {P : Session → Prop} {go₁ go₂ : Callback → Run Int32} {s : Session}
  (h : Companions throughHost P go₁ go₂) (hbridged : ∀ s, P s → s.Bridged) (hs : P s)
  (budget : Nat)

include h hbridged hs

theorem tracer_compute_faultless (site : Site) :
    Faultless s (Tracer.compute budget (sessionHost go₁) (foreignAt site.foreign).tracer site.id) := by
  unfold Tracer.compute
  refine Follows.lift_step rfl ?_
  refine Faultless.ofExcept_bind (fun _ => Tracer.plan_error) fun plan hplan => ?_
  obtain ⟨hm, hplan⟩ := plan_bridged (hbridged s hs) hplan
  refine Faultless.bind ?_ fun done t => ?_
  · intro r t hrun
    refine ⟨hrun, ?_⟩
    intro e heq cause hsame
    subst heq
    subst hsame
    exact carryOut_unfaulted h hm hs hplan hrun cause rfl
  · split
    · refine Follows.lift_step rfl ?_
      exact Faultless.ofExcept_bind (fun _ => Tracer.slot_error) fun slot _ =>
        Follows.lift_step rfl Faultless.pure
    · exact .pure

theorem tracer_capture_faultless (site : Site) :
    Faultless s (Tracer.capture budget (sessionHost go₁) (foreignAt site.foreign).tracer site.id) := by
  unfold Tracer.capture
  refine Follows.lift_step rfl ?_
  refine Faultless.ofExcept_bind (fun _ => Tracer.slot_error) fun slot _ => ?_
  dsimp only
  split
  · exact .pure
  refine Faultless.ofExcept_bind (fun _ => Tracer.plan_error) fun plan hplan => ?_
  obtain ⟨hm, hplan⟩ := plan_bridged (hbridged s hs) hplan
  refine Faultless.bind ?_ fun memory t => ?_
  · intro r t hrun
    refine ⟨hrun, ?_⟩
    intro e heq cause hsame
    subst heq
    subst hsame
    exact initialMemory_unfaulted h hm hs hplan hrun cause rfl
  · refine Follows.lift_step rfl ?_
    exact Faultless.ofExcept_bind (fun _ => Tracer.slot_error) fun slot _ =>
      Follows.lift_step rfl Faultless.pure

theorem foreign_compute_faultless (site : Site) :
    Faultless s (Foreign.compute budget (sessionHost go₁) (foreignAt site.foreign) site.id) := by
  unfold Foreign.compute
  refine Follows.lift_step rfl ?_
  cases (foreignAt site.foreign).get s with
  | scripted e | pinned e => exact Faultless.ofExcept fun _ => Scripted.compute_error
  | tracing t => exact tracer_compute_faultless h hbridged hs budget site

theorem foreign_snapshot_faultless (site : Site) :
    Faultless s (Foreign.snapshot budget (sessionHost go₁) (foreignAt site.foreign) site.id) := by
  unfold Foreign.snapshot
  refine Follows.lift_step rfl ?_
  cases (foreignAt site.foreign).get s with
  | scripted e | pinned e => exact Faultless.ofExcept fun _ => Scripted.snapshot_error
  | tracing t =>
    exact (tracer_capture_faultless h hbridged hs budget site).bind fun _ _ => .pure

theorem foreign_patch_faultless (site : Site) (offset length : UInt32) (data : ByteArray) :
    Faultless s
      (Foreign.patch budget (sessionHost go₁) (foreignAt site.foreign) site.id offset length data) := by
  unfold Foreign.patch
  refine Follows.lift_step rfl ?_
  cases (foreignAt site.foreign).get s with
  | scripted e | pinned e =>
    exact Faultless.ofExcept_bind (fun _ => Scripted.patch_error) fun _ _ =>
      Follows.self rfl fun _ h => nomatch h
  | tracing t =>
    unfold Tracer.patch
    refine Faultless.ofExcept_bind (fun _ => Patch.make_error) fun p _ => ?_
    refine (tracer_capture_faultless h hbridged hs budget site).bind fun slot t => ?_
    have hown : ∀ e, p.applyTo (slot.image.getD .empty) = .error e → e.Own := fun _ he =>
      (Patch.applyTo_error he).1.own
    refine Faultless.ofExcept_bind hown fun image _ => ?_
    exact Follows.lift_step rfl (Follows.self rfl fun _ h => nomatch h)

theorem executeIn_faultless (index : Nat) (binary : Guest.Binary) :
    Faultless s (executeIn budget go₁ index binary) := by
  unfold executeIn
  refine Follows.lift_bind (createIn_proceeds (d := throughHost) index) ?_
  intro id t hreached
  obtain ⟨js, hcourse⟩ := hreached
  refine Follows.lift_step rfl ?_
  refine Faultless.ofExcept_bind (fun _ => Foreign.install_error) fun f hf => ?_
  have hchange : Change throughHost t _ _ := .installed index id binary f hf
  have hu := h.stable (.one hchange) (h.stable hcourse hs)
  exact Follows.lift_step rfl (foreign_compute_faultless h hbridged hu budget ⟨index, id⟩)

end

/-! ## Operations that run guests -/

/-- Whether an operation runs the code of a guest. -/
def Op.runsGuests : Op → Bool
  | .handle _ .compute | .handle _ .memory | .handle _ (.read _ _) | .handle _ (.patch _ _ _)
  | .foreign _ (.compute _) | .foreign _ (.memory _) | .foreign _ (.patch _ _ _ _)
  | .foreign _ (.execute _) | .executeBinary _ _ => true
  | _ => false

/-- Whether an operation ended in a fault. -/
def Answer.isFatal : Answer → Bool
  | .engineError (.fault _) | .hostError (.fault _) => true
  | _ => false

/-- From `s` on, the action of the host does not end in a fault. -/
def HostFaultless {α : Type} (s : Session) (a : Hosted α) : Prop :=
  Follows s a.run a.run fun r _ => ∀ cause, r ≠ .error (.fault cause)

section

variable {α β : Type} {s : Session}

theorem HostError.ofEngine_ne_fault {e : EngineError} (h : e.Own) (cause : BindingFault) :
    HostError.ofEngine e ≠ .fault cause := by
  cases e with
  | fault c => exact absurd rfl (h c)
  | _ => rintro ⟨⟩

theorem Faultless.ofEngine {a : Attempt Session α} (ha : Faultless s a) :
    HostFaultless s (Hosted.ofEngine a) := by
  refine ofEngine_follows (Follows.weaken ha fun r _ hr => ?_)
  cases r with
  | ok x => rintro cause ⟨⟩
  | error e =>
    intro cause hcause
    exact HostError.ofEngine_ne_fault (hr e rfl) cause (Except.error.inj hcause)

theorem HostFaultless.bind {a : Hosted α} {f : α → Hosted β} (ha : HostFaultless s a)
    (hf : ∀ x t, HostFaultless t (f x)) : HostFaultless s (a >>= f) := by
  refine Follows.run_bind ha ?_ fun x t _ => hf x t
  intro e _ he cause heq
  cases heq
  exact he cause rfl

theorem HostFaultless.ofExcept_bind {r : Except EngineError α} {f : α → Hosted β}
    (hr : ∀ e, r = .error e → e.Own) (hf : ∀ x, HostFaultless s (f x)) :
    HostFaultless s (Hosted.ofExcept r >>= f) := by
  cases r with
  | error e =>
    refine Follows.pure fun cause hcause => ?_
    exact HostError.ofEngine_ne_fault (hr e rfl) cause (Except.error.inj hcause)
  | ok x => exact hf x

theorem decode_hostFaultless (payload : ByteArray) :
    HostFaultless s (ExceptT.mk (pure (TraceResult.decode payload))) := by
  refine Follows.pure ?_
  unfold TraceResult.decode
  split
  · split
    · intro cause heq
      cases heq
    · intro cause heq
      cases heq
  · intro cause heq
    cases heq

theorem answerAttempt_not_fatal {a : Attempt Session α} {answer : α → Answer}
    (ha : Faultless s a) (hanswer : ∀ x, (answer x).isFatal = false) :
    Follows s (answerAttempt a answer) (answerAttempt a answer) fun r _ => r.isFatal = false := by
  refine Follows.bind ha fun r t hr => ?_
  cases r with
  | ok x => exact .pure (hanswer x)
  | error e =>
    refine .pure ?_
    cases e with
    | fault cause => exact absurd rfl (hr _ rfl cause)
    | _ => rfl

theorem answerHosted_not_fatal {a : Hosted α} {answer : α → Answer} (ha : HostFaultless s a)
    (hanswer : ∀ x, (answer x).isFatal = false) :
    Follows s (answerHosted a answer) (answerHosted a answer) fun r _ => r.isFatal = false := by
  refine Follows.bind ha fun r t hr => ?_
  cases r with
  | ok x => exact .pure (hanswer x)
  | error e =>
    refine .pure ?_
    cases e with
    | fault cause => exact absurd rfl (hr cause)
    | _ => rfl

end

section

variable {P : Session → Prop} {go₁ go₂ : Callback → Run Int32} {s : Session}
  (h : Companions throughHost P go₁ go₂) (hbridged : ∀ s, P s → s.Bridged) (hs : P s)
  (budget : Nat)

include h hbridged hs

theorem perform_not_fatal {op : Op} (hop : op.runsGuests) :
    Follows s (perform budget go₁ op) (perform budget go₁ op) fun r _ => r.isFatal = false := by
  have hcompute := foreign_compute_faultless h hbridged hs budget
  have hsnapshot := foreign_snapshot_faultless h hbridged hs budget
  have hpatch := foreign_patch_faultless h hbridged hs budget
  have hexecute := executeIn_faultless h hbridged hs budget
  unfold Op.runsGuests at hop
  split at hop
  case h_1 name =>
    refine withHandle_follows rfl fun handle _ => answerHosted_not_fatal ?_ fun _ => rfl
    exact (hcompute ⟨handle.foreign, handle.id⟩).ofEngine.bind fun _ _ => decode_hostFaultless _
  case h_2 name =>
    refine withHandle_follows rfl fun handle _ => answerHosted_not_fatal ?_ fun _ => rfl
    exact (hsnapshot ⟨handle.foreign, handle.id⟩).ofEngine
  case h_3 name offset length =>
    refine withHandle_follows rfl fun handle _ => answerHosted_not_fatal ?_ fun _ => rfl
    refine (hsnapshot ⟨handle.foreign, handle.id⟩).ofEngine.bind fun image _ => ?_
    exact (Faultless.ofExcept fun _ he => (readAt_error he).own).ofEngine
  case h_4 name offset length data =>
    refine withHandle_follows rfl fun handle _ => answerHosted_not_fatal ?_ fun _ => rfl
    refine HostFaultless.ofExcept_bind (fun _ => checkLength_error) fun _ => ?_
    exact (hpatch ⟨handle.foreign, handle.id⟩ offset length data).ofEngine
  case h_5 index id =>
    exact withForeign_follows rfl fun _ _ => answerAttempt_not_fatal (hcompute ⟨index, id⟩) fun _ => rfl
  case h_6 index id =>
    exact withForeign_follows rfl fun _ _ => answerAttempt_not_fatal (hsnapshot ⟨index, id⟩) fun _ => rfl
  case h_7 index id offset length data =>
    exact withForeign_follows rfl fun _ _ =>
      answerAttempt_not_fatal (hpatch ⟨index, id⟩ offset length data) fun _ => rfl
  case h_8 index binary =>
    exact withForeign_follows rfl fun _ _ => answerAttempt_not_fatal (hexecute index binary) fun _ => rfl
  case h_9 index binary =>
    refine withForeign_follows rfl fun _ _ => answerHosted_not_fatal ?_ fun _ => rfl
    exact (hexecute index binary).ofEngine.bind fun _ _ => decode_hostFaultless _
  case h_10 => cases hop

end

end EngineHost
