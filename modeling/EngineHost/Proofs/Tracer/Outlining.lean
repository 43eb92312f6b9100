import EngineHost.Proofs.Tracer.Coupling
import EngineHost.Proofs.Tracer.Requests
/-
What an execution depends on.  A listener that accepts every item changes
nothing in a run, whichever it is and whether or not there is one.  If besides
the entries answer by the name and the arguments, then all that is left to
depend on is the settings, the module, the bindings and the patches.
-/
namespace EngineHost

/-! ## Hearing without regard to the listener -/

/-- A host as it is heard through this listener. -/
def Host.hearing {σ : Type} (host : Host σ) (listener : Option LogEntry) : Host σ where
  enter := host.enter
  deliver _ id item :=
    match listener with
    | some entry => host.deliver entry id item
    | none => pure (.ok ())

/-- A plan with a listener armed, whether or not there was one. -/
def Plan.armed (plan : Plan) : Plan := { plan with listener := some .accepting }

section

variable {σ : Type} {host : Host σ} {plan : Plan}

theorem recordCall_hearing (t : Trace) (name : String) (args : List Int64)
    (result : Option Int32) :
    recordCall (host.hearing plan.listener) plan.armed t name args result =
      recordCall host plan t name args result := by
  unfold recordCall Plan.armed Host.hearing
  dsimp only
  cases plan.listener with
  | none => exact pure_bind _ _
  | some entry => rfl

theorem serve_hearing (name : String) (b : Binding) (args : List Guest.Value) (t : Trace) :
    serve (host.hearing plan.listener) plan.armed name b args t = serve host plan name b args t := by
  unfold serve
  refine congrArg (_ >>= ·) (funext fun answer => ?_)
  cases answer with
  | error cause => rfl
  | ok value => exact congrArg (· >>= _) (recordCall_hearing t name _ _)

theorem serveImport_hearing (linked : List Linked) (index : Nat) (args : List Guest.Value)
    (t : Trace) :
    serveImport (host.hearing plan.listener) plan.armed linked index args t =
      serveImport host plan linked index args t := by
  unfold serveImport
  cases linked[index]? with
  | none => rfl
  | some l =>
    dsimp only
    cases l.definition with
    | halting halt => rfl
    | bound b => exact congrArg (· >>= _) (serve_hearing l.name b args t)

theorem runGuest_hearing {env : Guest.Env} {linked : List Linked} (budget : Nat) (x : Guest.Step)
    (t : Trace) (s : σ) :
    runGuest (host.hearing plan.listener) plan.armed env linked budget x t s =
      runGuest host plan env linked budget x t s := by
  induction budget generalizing x t s with
  | zero => rfl
  | succ budget ih =>
    cases x with
    | next m => exact ih _ t s
    | ended how m => rfl
    | host index args m =>
      unfold runGuest
      rw [serveImport_hearing]
      cases serveImport host plan linked index args t s with
      | none => rfl
      | some answer =>
        obtain ⟨⟨_ | results, t'⟩, s'⟩ := answer
        · rfl
        · exact ih _ t' s'

variable {budget : Nat} {config : TracerConfig}

theorem instantiate_hearing (linked : List Linked) :
    instantiate budget (host.hearing plan.listener) config plan.armed linked =
      instantiate budget host config plan linked := by
  unfold instantiate Plan.armed
  dsimp only
  cases placeSegments (plan.module.machine config).memory plan.module.segments with
  | none => rfl
  | some memory =>
    cases plan.module.start with
    | none => rfl
    | some f => exact funext fun s => runGuest_hearing budget _ _ s

theorem carryOut_hearing :
    carryOut budget (host.hearing plan.listener) config plan.armed =
      carryOut budget host config plan := by
  have hentry (linked : List Linked) (machine : Guest.Machine) (t : Trace) :
      runEntry budget (host.hearing plan.listener) config plan.armed linked machine t =
        runEntry budget host config plan linked machine t := by
    unfold runEntry Plan.armed
    dsimp only
    cases plan.module.entry? config with
    | none => rfl
    | some f =>
      refine congrArg (· >>= _) (congrArg liftM (funext fun s => ?_))
      exact runGuest_hearing budget _ t s
  unfold carryOut
  simp only [instantiate_hearing, hentry]
  rfl

theorem initialMemory_hearing :
    initialMemory budget (host.hearing plan.listener) config plan.armed =
      initialMemory budget host config plan := by
  unfold initialMemory
  simp only [instantiate_hearing]
  rfl

end

/-! ## Outlines -/

/-- What is left of a plan without the identity and the listener, together with
the settings. -/
structure Outline where
  config : TracerConfig
  module : Guest.Module
  bindings : Bindings
  patches : List Patch

namespace Outline

/-- A slot with this outline, and with a listener armed. -/
def slot (x : Outline) : TracerSlot where
  module := some x.module
  bindings := x.bindings
  listener := some .accepting
  patches := x.patches

/-- The engine would plan with this outline now. -/
structure At (x : Outline) (id : EngineId) (t : Tracer) (slot : TracerSlot) : Prop where
  config_eq : t.config = x.config
  there : t.slots[id]? = some slot
  module_eq : slot.module = some x.module
  bindings_eq : slot.bindings = x.bindings
  patches_eq : slot.patches = x.patches

theorem At.armed {x : Outline} {id : EngineId} {t : Tracer} {slot : TracerSlot}
    (h : x.At id t slot) : (slot.planOf id x.module).armed = x.slot.planOf id x.module := by
  unfold Plan.armed TracerSlot.planOf Outline.slot
  simp only [h.bindings_eq, h.patches_eq]

end Outline

section

variable {σ : Type} (x : Outline)
  (answer : EntryPoint → String → List Int64 → Except BindingFault Int32)
  (here : Place σ Tracer) (id : EngineId) (P : σ → Prop) (host : Host σ)

/-- In the worlds that `P` tells of the engine has this outline.  The entries it
is bound to answer by the name and the arguments, the listener accepts every
item if there is one, and all of them stay in these worlds, as do changes of
the image. -/
structure Answering : Prop where
  planned : ∀ s, P s → ∃ slot, x.At id (here.get s) slot
  entries : ∀ (name : String) b, x.bindings[name]? = some b → ∀ args s, P s →
    ∃ t, host.enter b.entry id name (marshal id b.entry.path args) s =
      some (answer b.entry name (marshal id b.entry.path args).args, t) ∧ P t
  listener : ∀ s slot entry, P s → (here.get s).slots[id]? = some slot →
    slot.listener = some entry → ∀ item t, P t →
      ∃ u, host.deliver entry id item t = some (.ok (), u) ∧ P u
  written : ∀ s slot image, P s → (here.get s).slots[id]? = some slot →
    P (here.set ((here.get s).setSlot id { slot with image }) s)

/-- Something that leaves the outline of the engine: a trace, a snapshot, any
request that fails, or whatever else leads to a world with this outline. -/
inductive Idle (s t : σ) : Prop where
  | aside (h : P t)
  | computed {budget : Nat} {r : Tracer.Response}
      (hrun : Tracer.Request.compute.perform budget host here id s = some (r, t))
  | shown {budget : Nat} {r : Tracer.Response}
      (hrun : Tracer.Request.snapshot.perform budget host here id s = some (r, t))
  | failed {budget : Nat} {request : Tracer.Request} {r : Tracer.Response}
      (hrun : request.perform budget host here id s = some (r, t)) (hfailed : r.Failed)

end

section

variable {σ τ : Type} {x : Outline}
  {answer : EntryPoint → String → List Int64 → Except BindingFault Int32}
  {here : Place σ Tracer} {here' : Place τ Tracer} {id id' : EngineId} {P : σ → Prop}
  {P' : τ → Prop} {host : Host σ} {host' : Host τ} {budget : Nat}

/-- Two such engines are answered alike, each through its own listener. -/
theorem Answering.hostsAlike (h : Answering x answer here id P host)
    (h' : Answering x answer here' id' P' host') {s : σ} {y : τ} (hs : P s) (hy : P' y)
    {slot slot' : TracerSlot} (hslot : (here.get s).slots[id]? = some slot)
    (hslot' : (here'.get y).slots[id']? = some slot') :
    HostsAlike (fun s y => P s ∧ P' y) id id' x.slot (host.hearing slot.listener)
      (host'.hearing slot'.listener) where
  enter name b hb args := by
    intro t z hP r u hrun
    obtain ⟨u', hrun', hu⟩ := h.entries name b hb args t hP.1
    obtain ⟨v, hv, hPv⟩ := h'.entries name b hb args z hP.2
    cases hrun'.symm.trans hrun
    rw [marshal_args_eq id' id] at hv
    exact ⟨v, hv, hu, hPv⟩
  deliver entry _ item := by
    have haccepts : ∀ t, P t → ∃ u,
        (host.hearing slot.listener).deliver entry id item t = some (.ok (), u) ∧ P u := by
      intro t ht
      cases hlistener : slot.listener with
      | none => exact ⟨t, rfl, ht⟩
      | some armed => exact h.listener s slot armed hs hslot hlistener item t ht
    have haccepts' : ∀ z, P' z → ∃ v,
        (host'.hearing slot'.listener).deliver entry id' item z = some (.ok (), v) ∧ P' v := by
      intro z hz
      cases hlistener : slot'.listener with
      | none => exact ⟨z, rfl, hz⟩
      | some armed => exact h'.listener y slot' armed hy hslot' hlistener item z hz
    intro t z hP r u hrun
    obtain ⟨u', hrun', hu⟩ := haccepts t hP.1
    obtain ⟨v, hv, hPv⟩ := haccepts' z hP.2
    cases hrun'.symm.trans hrun
    exact ⟨v, hv, hu, hPv⟩

/-- Executions of two such engines end alike, in worlds as they began. -/
theorem Answering.carryOut (h : Answering x answer here id P host)
    (h' : Answering x answer here' id' P' host') {s t : σ} {y : τ} (hs : P s) (hy : P' y)
    {slot slot' : TracerSlot} (hslot : x.At id (here.get s) slot)
    (hslot' : x.At id' (here'.get y) slot') {r : Except EngineError Execution}
    (hrun : (carryOut budget host x.config (slot.planOf id x.module)).run s = some (r, t)) :
    ∃ z, (EngineHost.carryOut budget host' x.config (slot'.planOf id' x.module)).run y =
      some (r, z) ∧ P t ∧ P' z := by
  have halike := h.hostsAlike h' hs hy hslot.there hslot'.there
  rw [← carryOut_hearing, hslot.armed] at hrun
  rw [← carryOut_hearing, hslot'.armed]
  exact carryOut_coupled halike budget s y ⟨hs, hy⟩ r t hrun

theorem Answering.initialMemory (h : Answering x answer here id P host) {s t : σ} (hs : P s)
    {slot : TracerSlot} (hslot : x.At id (here.get s) slot) {r : Except EngineError ByteArray}
    (hrun : (initialMemory budget host x.config (slot.planOf id x.module)).run s = some (r, t)) :
    P t := by
  have halike := h.hostsAlike h hs hs hslot.there hslot.there
  rw [← initialMemory_hearing, hslot.armed] at hrun
  obtain ⟨_, -, ht, -⟩ := initialMemory_coupled halike budget s s ⟨hs, hs⟩ r t hrun
  exact ht

theorem Outline.At.plan {t : Tracer} {slot : TracerSlot} (h : x.At id t slot) :
    t.plan id = .ok (slot.planOf id x.module) :=
  Tracer.plan_eq_ok_iff.2 ⟨slot, x.module, h.there, h.module_eq, rfl⟩

/-- Two such engines compute alike. -/
theorem Answering.computing (h : Answering x answer here id P host)
    (h' : Answering x answer here' id' P' host') {s t : σ} {y : τ} (hs : P s) (hy : P' y)
    {r : Except EngineError ByteArray} (hcompute : Tracer.Computing budget host here id s r t) :
    ∃ z, Tracer.Computing budget host' here' id' y r z ∧ P t ∧ P' z := by
  obtain ⟨slot, hslot⟩ := h.planned s hs
  obtain ⟨slot', hslot'⟩ := h'.planned y hy
  have hcarried {plan : Plan} {r : Except EngineError Execution} {u : σ}
      (hplan : (here.get s).plan id = .ok plan)
      (hrun : (EngineHost.carryOut budget host (here.get s).config plan).run s = some (r, u)) :
      ∃ z, (EngineHost.carryOut budget host' (here'.get y).config
        (slot'.planOf id' x.module)).run y = some (r, z) ∧ P u ∧ P' z := by
    cases hslot.plan.symm.trans hplan
    rw [hslot.config_eq] at hrun
    rw [hslot'.config_eq]
    exact h.carryOut h' hs hy hslot hslot' hrun
  cases hcompute with
  | unplanned hplan => cases hslot.plan.symm.trans hplan
  | failed hplan hrun =>
    obtain ⟨z, hz, hP⟩ := hcarried hplan hrun
    exact ⟨z, .failed hslot'.plan hz, hP⟩
  | unkept hplan hrun =>
    obtain ⟨z, hz, hP⟩ := hcarried hplan hrun
    exact ⟨z, .unkept hslot'.plan hz, hP⟩
  | vanished hplan hrun hgone =>
    obtain ⟨z, -, ht, -⟩ := hcarried hplan hrun
    obtain ⟨after, hafter⟩ := h.planned t ht
    cases hgone.symm.trans hafter.there
  | kept hplan hrun hkept =>
    obtain ⟨z, hz, hu, hPz⟩ := hcarried hplan hrun
    obtain ⟨after, hafter⟩ := h'.planned z hPz
    exact ⟨_, .kept hslot'.plan hz hafter.there, h.written _ _ _ hu hkept,
      h'.written _ _ _ hPz hafter.there⟩

section

variable (h : Answering x answer here id P host) {s t : σ} (hs : P s)

include h hs

theorem Answering.capturing {r : Except EngineError TracerSlot}
    (hcapture : Tracer.Capturing budget host here id s r t) : P t := by
  obtain ⟨slot, hslot⟩ := h.planned s hs
  have hbegun {other : TracerSlot} {m : Guest.Module} {r : Except EngineError ByteArray} {u : σ}
      (hother : (here.get s).slots[id]? = some other) (hmodule : other.module = some m)
      (hrun : (EngineHost.initialMemory budget host (here.get s).config (other.planOf id m)).run s =
        some (r, u)) : P u := by
    cases hslot.there.symm.trans hother
    cases hslot.module_eq.symm.trans hmodule
    rw [hslot.config_eq] at hrun
    exact h.initialMemory hs hslot hrun
  cases hcapture with
  | unknown | present | uninstalled => exact hs
  | failed hother _ hmodule hrun => exact hbegun hother hmodule hrun
  | vanished hother _ hmodule hrun _ => exact hbegun hother hmodule hrun
  | captured hother _ hmodule hrun hafter =>
    exact h.written _ _ _ (hbegun hother hmodule hrun) hafter

theorem Answering.failed {request : Tracer.Request} {r : Tracer.Response}
    (hrun : request.perform budget host here id s = some (r, t)) (hfailed : r.Failed) : P t := by
  cases request with
  | create =>
    obtain ⟨rfl, -⟩ := Tracer.perform_create_iff.1 hrun
    cases hfailed
  | install binary =>
    rcases Tracer.perform_install_iff.1 hrun with ⟨_, _, rfl, _⟩ | ⟨_, _, _, rfl⟩
    · cases hfailed
    · exact hs
  | compute =>
    obtain ⟨_, hcompute, -⟩ := Tracer.perform_compute_iff.1 hrun
    obtain ⟨_, -, ht, -⟩ := h.computing h hs hs hcompute
    exact ht
  | snapshot =>
    obtain ⟨_, hcapture, -⟩ := Tracer.perform_snapshot_iff.1 hrun
    exact h.capturing hs hcapture
  | patch offset length data =>
    obtain ⟨_, hpatch, rfl⟩ := Tracer.perform_patch_iff.1 hrun
    cases hpatch with
    | mismatched => exact hs
    | uncaptured _ hcapture | outside _ hcapture _ => exact h.capturing hs hcapture
    | accepted => cases hfailed
  | bind name binding =>
    rcases Tracer.perform_bind_iff.1 hrun with ⟨_, _, rfl, _⟩ | ⟨_, _, rfl⟩
    · cases hfailed
    · exact hs
  | listen entry =>
    rcases Tracer.perform_listen_iff.1 hrun with ⟨_, _, rfl, _⟩ | ⟨_, _, rfl⟩
    · cases hfailed
    · exact hs

theorem Answering.idle (hidle : Idle here id P host s t) : P t := by
  cases hidle with
  | aside ht => exact ht
  | computed hrun =>
    obtain ⟨_, hcompute, -⟩ := Tracer.perform_compute_iff.1 hrun
    obtain ⟨_, -, ht, -⟩ := h.computing h hs hs hcompute
    exact ht
  | shown hrun =>
    obtain ⟨_, hcapture, -⟩ := Tracer.perform_snapshot_iff.1 hrun
    exact h.capturing hs hcapture
  | failed hrun hfailed => exact h.failed hs hrun hfailed

/-- However long an engine is idle, it keeps its outline. -/
theorem Answering.idles (hidle : Relation.ReflTransGen (Idle here id P host) s t) : P t := by
  induction hidle with
  | refl => exact hs
  | tail _ hstep ih => exact h.idle ih hstep

end

/-- Whatever the budgets, such engines come to one result. -/
theorem Answering.unique (h : Answering x answer here id P host)
    (h' : Answering x answer here' id' P' host') {s t : σ} {y z : τ} (hs : P s) (hy : P' y)
    {budget' : Nat} {r r' : Except EngineError ByteArray}
    (hcompute : Tracer.Computing budget host here id s r t)
    (hcompute' : Tracer.Computing budget' host' here' id' y r' z) : r = r' := by
  obtain ⟨_, hother, -⟩ := h.computing h' hs hy hcompute
  exact hother.unique hcompute'

end

end EngineHost
