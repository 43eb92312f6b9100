import EngineHost.Proofs.Coupling
import EngineHost.Proofs.Tracer.Stateless
/-
Engines in two worlds.  Where two hosts answer the calls of two engines alike,
and the engines have the same slot, they do the same.  What else there is in the
worlds does not matter, and neither does the identity that an engine goes by.
-/
namespace EngineHost

section

variable {σ τ : Type} (R : σ → τ → Prop)

/-- Two hosts that answer the calls of two engines alike, where both engines
have the bindings and the listener of a slot. -/
structure HostsAlike (id id' : EngineId) (slot : TracerSlot) (host : Host σ) (host' : Host τ) :
    Prop where
  enter : ∀ (name : String) (b : Binding), slot.bindings[name]? = some b → ∀ args,
    CoupledIn R (host.enter b.entry id name (marshal id b.entry.path args))
      (host'.enter b.entry id' name (marshal id' b.entry.path args))
  deliver : ∀ entry, slot.listener = some entry → ∀ item,
    CoupledIn R (host.deliver entry id item) (host'.deliver entry id' item)

/-- Two places where an engine has the same slot, and can be given another. -/
structure PlacesAlike (id : EngineId) (here : Place σ Tracer) (here' : Place τ Tracer) : Prop where
  same : ∀ s x, R s x → (here.get s).Same id (here'.get x)
  stored : ∀ s x slot, R s x →
    R (here.set ((here.get s).setSlot id slot) s) (here'.set ((here'.get x).setSlot id slot) x)

end

/-- Behind the marker the arguments are the same, whoever calls. -/
theorem marshal_args_eq (id id' : EngineId) (path : CallPath) (args : List Guest.Value) :
    (marshal id path args).args = (marshal id' path args).args := by
  cases path <;> simp [marshal, RawCall.args, RawCall.slots, widen]

section

variable {σ τ : Type} {R : σ → τ → Prop} {id id' : EngineId} {slot : TracerSlot} {host : Host σ}
  {host' : Host τ} (h : HostsAlike R id id' slot host host') {m : Guest.Module}

include h

theorem recordCall_coupled (trace : Trace) (name : String) (args : List Int64)
    (result : Option Int32) :
    CoupledIn R (recordCall host (slot.planOf id m) trace name args result)
      (recordCall host' (slot.planOf id' m) trace name args result) := by
  intro s x hR
  unfold recordCall
  simp only [TracerSlot.planOf]
  cases hlistener : slot.listener with
  | none => exact .pure hR _
  | some entry => exact (h.deliver entry hlistener _ s x hR).bind fun _ _ _ hR => .pure hR _

theorem serve_coupled {name : String} {b : Binding} (hb : slot.bindings[name]? = some b)
    (args : List Guest.Value) (trace : Trace) :
    CoupledIn R (serve host (slot.planOf id m) name b args trace)
      (serve host' (slot.planOf id' m) name b args trace) := by
  intro s x hR
  unfold serve
  refine (h.enter name b hb args s x hR).bind fun answer t y hR => ?_
  cases answer with
  | error cause => exact .pure hR _
  | ok value =>
    dsimp only [TracerSlot.planOf]
    rw [marshal_args_eq id' id]
    exact (recordCall_coupled h _ _ _ _ t y hR).bind fun _ _ _ hR => .pure hR _

variable {config : TracerConfig} {linked : List Linked}

section

variable (hlinked : ∀ l ∈ linked, l.MadeFrom config slot.bindings)

include hlinked

theorem serveImport_coupled (index : Nat) (args : List Guest.Value) (trace : Trace) :
    CoupledIn R (serveImport host (slot.planOf id m) linked index args trace)
      (serveImport host' (slot.planOf id' m) linked index args trace) := by
  intro s x hR
  unfold serveImport
  cases hl : linked[index]? with
  | none => exact .pure hR _
  | some l =>
    cases hlinked l (List.mem_of_getElem? hl) with
    | halting hnone hhalt => exact .pure hR _
    | bound hb => exact (serve_coupled h hb args trace s x hR).bind fun _ _ _ hR => .pure hR _

theorem runGuest_coupled (env : Guest.Env) (budget : Nat) (y : Guest.Step) (trace : Trace) :
    CoupledIn R (runGuest host (slot.planOf id m) env linked budget y trace)
      (runGuest host' (slot.planOf id' m) env linked budget y trace) := by
  induction budget generalizing y trace with
  | zero => exact fun _ _ _ _ _ hrun => nomatch hrun
  | succ budget ih =>
    cases y with
    | next m => exact ih _ _
    | ended how m => exact fun s x hR => .pure hR _
    | host index args m =>
      intro s x hR stage t hrun
      rcases runGuest_host_eq_some_iff.1 hrun with
        ⟨why, trace', hserve, rfl⟩ | ⟨results, trace', u, hserve, hrun⟩
      · obtain ⟨z, hz, hR⟩ := serveImport_coupled h hlinked index args trace s x hR _ _ hserve
        exact ⟨z, runGuest_host_eq_some_iff.2 (.inl ⟨why, trace', hz, rfl⟩), hR⟩
      · obtain ⟨z, hz, hR⟩ := serveImport_coupled h hlinked index args trace s x hR _ _ hserve
        obtain ⟨w, hw, hR⟩ := ih _ _ u z hR stage t hrun
        exact ⟨w, runGuest_host_eq_some_iff.2 (.inr ⟨results, trace', z, hz, hw⟩), hR⟩

theorem instantiate_coupled (budget : Nat) :
    CoupledIn R (instantiate budget host config (slot.planOf id m) linked)
      (instantiate budget host' config (slot.planOf id' m) linked) := by
  intro s x hR
  unfold instantiate
  dsimp only [TracerSlot.planOf]
  cases placeSegments (m.machine config).memory m.segments with
  | none => exact .pure hR _
  | some memory =>
    cases m.start with
    | none => exact .pure hR _
    | some f => exact runGuest_coupled h hlinked _ _ _ _ s x hR

theorem runEntry_coupled (budget : Nat) (machine : Guest.Machine) (trace : Trace) :
    CoupledIn R (runEntry budget host config (slot.planOf id m) linked machine trace).run
      (runEntry budget host' config (slot.planOf id' m) linked machine trace).run := by
  intro s x hR
  unfold runEntry
  dsimp only [TracerSlot.planOf]
  cases m.entry? config with
  | none => exact .pure hR _
  | some f =>
    refine (runGuest_coupled h hlinked _ _ _ _ s x hR).lift_bind fun stage t y hR => ?_
    exact .ofExcept_bind hR fun _ _ => .pure hR _

end

theorem carryOut_coupled (budget : Nat) :
    CoupledIn R (carryOut budget host config (slot.planOf id m)).run
      (carryOut budget host' config (slot.planOf id' m)).run := by
  intro s x hR
  unfold carryOut
  refine .ofExcept_bind hR fun linked hlink => ?_
  have hlinked := (link_eq_ok hlink).1
  refine (instantiate_coupled h hlinked budget s x hR).lift_bind fun stage t y hR => ?_
  refine .ofExcept_bind hR fun status _ => ?_
  cases status with
  | some status => exact .pure hR _
  | none =>
    refine .ofExcept_bind hR fun ready _ => ?_
    exact runEntry_coupled h hlinked budget ready.1 ready.2 t y hR

theorem initialMemory_coupled (budget : Nat) :
    CoupledIn R (initialMemory budget host config (slot.planOf id m)).run
      (initialMemory budget host' config (slot.planOf id' m)).run := by
  intro s x hR
  unfold initialMemory
  refine .ofExcept_bind hR fun linked hlink => ?_
  have hlinked := (link_eq_ok hlink).1
  refine (instantiate_coupled h hlinked budget s x hR).lift_bind fun stage t y hR => ?_
  refine .ofExcept_bind hR fun status _ => ?_
  cases status <;> exact .pure hR _

end

/-! ## The operations of the engine -/

namespace Tracer.Same

variable {id : EngineId} {t t' : Tracer}

theorem slot_eq (h : t.Same id t') : t'.slot id = t.slot id := by
  unfold Tracer.slot
  rw [h.2]

theorem plan_eq (h : t.Same id t') : t'.plan id = t.plan id := by
  unfold Tracer.plan
  rw [h.slot_eq]

end Tracer.Same

namespace Tracer

variable {σ τ : Type} {R : σ → τ → Prop} {id : EngineId} {host : Host σ} {host' : Host τ}
  (h : ∀ slot, HostsAlike R id id slot host host') {here : Place σ Tracer}
  {here' : Place τ Tracer} (hplaces : PlacesAlike R id here here')

include h hplaces

theorem compute_coupled (budget : Nat) :
    CoupledIn R (compute budget host here id).run (compute budget host' here' id).run := by
  intro s x hR
  unfold compute
  refine .lift_step rfl rfl ?_
  have hsame := hplaces.same s x hR
  rw [hsame.plan_eq, hsame.1]
  refine .ofExcept_bind hR fun plan hplan => ?_
  obtain ⟨slot, m, -, -, rfl⟩ := plan_eq_ok_iff.1 hplan
  refine (carryOut_coupled (h slot) budget s x hR).run_bind fun done t y hR => ?_
  cases done.memory with
  | none => exact .pure hR _
  | some memory =>
    refine .lift_step rfl rfl ?_
    rw [(hplaces.same t y hR).slot_eq]
    refine .ofExcept_bind hR fun slot _ => ?_
    exact .lift_step rfl rfl (.pure (hplaces.stored t y _ hR) _)

theorem capture_coupled (budget : Nat) :
    CoupledIn R (capture budget host here id).run (capture budget host' here' id).run := by
  intro s x hR
  unfold capture
  refine .lift_step rfl rfl ?_
  have hsame := hplaces.same s x hR
  rw [hsame.slot_eq, hsame.plan_eq, hsame.1]
  refine .ofExcept_bind hR fun slot _ => ?_
  by_cases himage : slot.image.isSome = true
  · simp only [himage, if_true]
    exact .pure hR _
  · simp only [himage]
    refine .ofExcept_bind hR fun plan hplan => ?_
    obtain ⟨slot, m, -, -, rfl⟩ := plan_eq_ok_iff.1 hplan
    refine (initialMemory_coupled (h slot) budget s x hR).run_bind fun memory t y hR => ?_
    refine .lift_step rfl rfl ?_
    rw [(hplaces.same t y hR).slot_eq]
    refine .ofExcept_bind hR fun slot _ => ?_
    exact .lift_step rfl rfl (.pure (hplaces.stored t y _ hR) _)

theorem snapshot_coupled (budget : Nat) :
    CoupledIn R (snapshot budget host here id).run (snapshot budget host' here' id).run :=
  fun s x hR => (capture_coupled h hplaces budget s x hR).run_bind fun _ _ _ hR => .pure hR _

theorem patch_coupled (budget : Nat) (offset length : UInt32) (data : ByteArray) :
    CoupledIn R (patch budget host here id offset length data).run
      (patch budget host' here' id offset length data).run := by
  intro s x hR
  unfold patch
  refine .ofExcept_bind hR fun p _ => ?_
  refine (capture_coupled h hplaces budget s x hR).run_bind fun slot t y hR => ?_
  refine .ofExcept_bind hR fun image _ => ?_
  refine .lift_step rfl rfl fun r u hrun => ?_
  cases hrun
  exact ⟨_, rfl, hplaces.stored t y _ hR⟩

end Tracer

end EngineHost
