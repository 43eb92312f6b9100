import EngineHost.Proofs.Decoding
import EngineHost.Proofs.Tracer.Painting
import EngineHost.Proofs.Tracer.Restoring
import EngineHost.Proofs.Tracer.Stateless
/-
Memories rebuilt from traces.  An engine whose entries are stateless has one
memory to start from, and its image is that memory with the recorded patches put
into it, in order.  An execution starts from the same memory, notes its runs,
and replays the same patches.  So what its trace notes, written over zeros,
gives the image again.
-/
namespace EngineHost

/-- The memory that a trace tells of, with so many bytes: its regions over zeros,
those of the fresh instance first and then the patches. -/
def Trace.rebuild (t : Trace) (size : Nat) : Except EngineError ByteArray :=
  Region.writeAll (Bytes.zeros size) (t.globalMemory ++ t.memoryChanges)

section

variable {σ : Type} (host : Host σ) (config : TracerConfig) (plan : Plan)

/-- From this world on the plan is carried out to the end of the entry export.
The entry export starts with this memory, and the trace at its end is this one. -/
inductive Completes (s : σ) : ByteArray → Trace → Prop where
  | intro {linked : List Linked} {machine : Guest.Machine} {trace : Trace}
      {ready : Guest.Machine × Trace} {f : Nat} {stage : Stage} {t u : σ}
      (hlink : link config plan.bindings plan.module = .ok linked)
      (hbegins : Begins host config plan linked s machine trace t)
      (hready : prepareMemory config plan machine trace = .ok ready)
      (hentry : plan.module.entry? config = some f)
      (hrun : Runs host plan (plan.module.env config) linked
        ⟨Guest.enter (plan.module.env config) f ready.1, ready.2, t⟩ stage u)
      (hreturned : stage.why = .returned) :
      Completes s (Guest.enter (plan.module.env config) f ready.1).machine.memory stage.trace

end

/-! ## What a trace notes -/

section

variable {σ : Type} {host : Host σ} {config : TracerConfig} {plan : Plan} {env : Guest.Env}
  {linked : List Linked} {s t : σ}

/-- A run adds calls to a trace and nothing else. -/
theorem Served.trace {name : String} {b : Binding} {args : List Guest.Value} {trace trace' : Trace}
    {answer : Except BindingFault (List Guest.Value)}
    (h : Served host plan name b args trace s answer trace' t) :
    trace' = { trace with calls := trace'.calls } := by
  cases h <;> rfl

theorem Moves.trace {x y : Moment σ} (h : Moves host plan env linked x y) :
    y.trace = { x.trace with calls := y.trace.calls } := by
  cases h with
  | inside => rfl
  | served _ _ _ hserved => exact hserved.trace

theorem Stops.trace {x : Moment σ} {stage : Stage} (h : Stops host plan linked x stage t) :
    stage.trace = { x.trace with calls := stage.trace.calls } := by
  cases h with
  | ended | unlinked | halted => rfl
  | faulted _ _ _ hserved => exact hserved.trace

theorem Runs.trace {x : Moment σ} {stage : Stage} (h : Runs host plan env linked x stage t) :
    stage.trace = { x.trace with calls := stage.trace.calls } := by
  obtain ⟨y, hmoves, hstops⟩ := h
  induction hmoves using Relation.ReflTransGen.head_induction_on with
  | refl => exact hstops.trace
  | head hmove _ ih =>
    rw [ih, hmove.trace]

theorem Begins.trace {machine : Guest.Machine} {trace : Trace}
    (h : Begins host config plan linked s machine trace t) :
    trace = { calls := trace.calls } := by
  cases h with
  | without => rfl
  | returned _ _ hrun => exact hrun.trace

/-- The memory of a fresh instance is noted by its runs, and the patches after
it. -/
theorem prepareMemory_notes {machine machine' : Guest.Machine} {trace trace' : Trace}
    (hshows : plan.module.showsMemory = true) (hrecord : config.recordGlobalMemory = true)
    (h : prepareMemory config plan machine trace = .ok (machine', trace')) :
    trace'.globalMemory =
      (Bytes.nonZeroRuns machine.memory).map (Region.ofSpan machine.memory) := by
  rw [prepareMemory, if_pos hshows, if_pos hrecord] at h
  obtain ⟨⟨memory, noted⟩, _, ⟨⟩⟩ := bind_eq_ok_iff.1 h
  rfl

/-- What an execution notes before its entry export rebuilds the memory that the
entry export starts with. -/
theorem rebuild_of_prepared {machine : Guest.Machine} {trace : Trace}
    {ready : Guest.Machine × Trace} {final : Trace}
    (hshows : plan.module.showsMemory = true) (hrecord : config.recordGlobalMemory = true)
    (htrace : trace = { calls := trace.calls })
    (hready : prepareMemory config plan machine trace = .ok ready)
    (hfinal : final = { ready.2 with calls := final.calls })
    (hsize : machine.memory.size < UInt32.size) :
    final.rebuild ready.1.memory.size = .ok ready.1.memory := by
  obtain ⟨machine', trace'⟩ := ready
  obtain ⟨hreplays, rfl, hchanges, -⟩ := prepareMemory_eq_ok hready
  rw [Guest.Module.Replays, if_pos hshows] at hreplays
  have hnotes := prepareMemory_notes hshows hrecord hready
  rw [htrace] at hchanges
  rw [hfinal, Trace.rebuild]
  show Region.writeAll (Bytes.zeros (patchAll machine.memory plan.patches).size)
    (trace'.globalMemory ++ trace'.memoryChanges) = _
  rw [hnotes, hchanges, List.nil_append, size_patchAll hreplays, Region.writeAll_append,
    Region.writeAll_runs hsize]
  exact Region.writeAll_patches hreplays

end

/-! ## Fresh instances -/

section

variable {σ : Type} {host : Host σ} {config : TracerConfig} {plan : Plan} {ps : List Patch}

/-- Until they are replayed, the patches of a plan do not matter. -/
theorem runGuest_patches {env : Guest.Env} {linked : List Linked} {budget : Nat} {x : Guest.Step}
    {trace : Trace} : runGuest host { plan with patches := ps } env linked budget x trace =
      runGuest host plan env linked budget x trace := by
  have hserve : serveImport host { plan with patches := ps } = serveImport host plan := rfl
  funext s
  induction budget generalizing x trace s with
  | zero => rfl
  | succ budget ih =>
    cases x with
    | next y => exact ih s
    | ended how y => rfl
    | host index args y => simp only [runGuest, hserve, ih]

theorem instantiate_patches {linked : List Linked} {budget : Nat} :
    instantiate budget host config { plan with patches := ps } linked =
      instantiate budget host config plan linked := by
  simp only [instantiate, runGuest_patches]

end

/-! ## Images and patches -/

/-- A module that shows its memory, in the slot it was installed in, and the
settings it runs under. -/
structure Setup where
  config : TracerConfig
  slot : TracerSlot
  module : Guest.Module
  installed : slot.module = some module
  shows : module.showsMemory = true

/-- What is planned once these patches are recorded. -/
def Setup.plan (x : Setup) (id : EngineId) (ps : List Patch) : Plan :=
  { x.slot.planOf id x.module with patches := ps }

section

variable {σ : Type} (here : Place σ Tracer) (id : EngineId) (P : σ → Prop) (host : Host σ)

/-- The world goes on, and the engine is left alone. -/
def Aside (s t : σ) : Prop := (here.get s).Same id (here.get t) ∧ P t

/-- A patch or a snapshot, whatever it is answered with, or something aside. -/
inductive Handled : σ → σ → Prop where
  | aside {s t : σ} (haside : Aside here id P s t) : Handled s t
  | patched {s t : σ} {budget : Nat} {offset length : UInt32} {data : ByteArray}
      {r : Except EngineError Unit}
      (hrun : (Tracer.patch budget host here id offset length data).run s = some (r, t)) :
      Handled s t
  | shown {s t : σ} {budget : Nat} {r : Except EngineError ByteArray}
      (hrun : (Tracer.snapshot budget host here id).run s = some (r, t)) : Handled s t

variable (x : Setup)

/-- A fresh instance starts out with this memory, in one of the worlds in question. -/
def Original (base : ByteArray) : Prop :=
  ∃ linked budget s stage t, link x.config x.slot.bindings x.module = .ok linked ∧ P s ∧
    instantiate budget host x.config (x.slot.planOf id x.module) linked s = some (stage, t) ∧
    stage.why = .returned ∧ base = stage.machine.memory

/-- An image that goes with the patches recorded so far.  As long as there is
none, there are no patches. -/
inductive Imaged : List Patch → Option ByteArray → Prop where
  | blank : Imaged [] none
  | shown {base : ByteArray} {ps : List Patch} (horiginal : Original id P host x base)
      (hfits : ∀ p ∈ ps, p.FitsIn base.size) : Imaged ps (some (patchAll base ps))

/-- The slot is as it was set up, but for patches and an image that go together. -/
structure Upkept (ps : List Patch) (image : Option ByteArray) (s : σ) : Prop where
  among : P s
  settings : (here.get s).config = x.config
  there : (here.get s).slots[id]? = some { x.slot with patches := ps, image }
  imaged : Imaged id P host x ps image

end

section

variable {σ : Type} {here : Place σ Tracer} {id : EngineId} {P : σ → Prop} {host : Host σ}
  {x : Setup} {ps : List Patch} {image : Option ByteArray} {s t : σ}

/-- All fresh instances start out with one memory. -/
theorem Original.unique (hstateless : Stateless here id P host x.slot) {base base' : ByteArray}
    (h : Original id P host x base) (h' : Original id P host x base') : base = base' := by
  obtain ⟨linked, budget, s, stage, t, hlink, hs, hstart, -, rfl⟩ := h
  obtain ⟨linked', budget', s', stage', t', hlink', hs', hstart', -, rfl⟩ := h'
  cases hlink.symm.trans hlink'
  have hinert := instantiate_inert hstateless (link_eq_ok hlink).1 hs hstart budget'
  obtain ⟨rfl, -, -⟩ := hinert s' hs' stage' t' hstart'
  rfl

/-- Patches do not change the size of the image. -/
theorem Imaged.size_eq (hstateless : Stateless here id P host x.slot) {ps' : List Patch}
    {memory memory' : ByteArray} (h : Imaged id P host x ps (some memory))
    (h' : Imaged id P host x ps' (some memory')) : memory.size = memory'.size := by
  cases h with
  | shown hbase hfits =>
    cases h' with
    | shown hbase' hfits' =>
      rw [size_patchAll hfits, size_patchAll hfits', hbase.unique hstateless hbase']

theorem Imaged.patch {memory patched : ByteArray} {p : Patch}
    (h : Imaged id P host x ps (some memory)) (hpatch : p.applyTo memory = .ok patched) :
    Imaged id P host x (ps ++ [p]) (some patched) := by
  cases h with
  | shown horiginal hfits =>
    obtain ⟨hp, rfl⟩ := Patch.applyTo_eq_ok_iff.1 hpatch
    rw [size_patchAll hfits] at hp
    have hall : ∀ q ∈ ps ++ [p], q.FitsIn _ := List.forall_mem_append.2
      ⟨hfits, fun q hq => List.mem_singleton.1 hq ▸ hp⟩
    have himage := Imaged.shown horiginal hall
    rwa [patchAll, List.foldl_append] at himage

namespace Upkept

variable (h : Upkept here id P host x ps image s)

include h

theorem aside (haside : Aside here id P s t) : Upkept here id P host x ps image t where
  among := haside.2
  settings := haside.1.1.trans h.settings
  there := haside.1.2.trans h.there
  imaged := h.imaged

/-- A slot written with patches and an image that go together. -/
theorem write (hwritten : ∀ s tracer, P s → P (here.set tracer s)) {ps' : List Patch}
    {image' : Option ByteArray} (himaged : Imaged id P host x ps' image') :
    Upkept here id P host x ps' image'
      (here.set ((here.get s).setSlot id { x.slot with patches := ps', image := image' }) s) where
  among := hwritten s _ h.among
  settings := by
    rw [here.get_set]
    exact h.settings
  there := by rw [here.get_set, Tracer.slots_setSlot, if_pos rfl]
  imaged := himaged

theorem plan : (here.get s).plan id = .ok (x.plan id ps) :=
  Tracer.plan_eq_ok_iff.2 ⟨_, x.module, h.there, x.installed, rfl⟩

variable (hstateless : Stateless here id P host x.slot)

include hstateless

/-- A fresh instance starts out with an original memory, and it leaves the
engine alone. -/
theorem instantiate {budget : Nat} {linked : List Linked} {stage : Stage}
    (hlink : link x.config x.slot.bindings x.module = .ok linked)
    (hstart : EngineHost.instantiate budget host x.config (x.plan id ps) linked s =
      some (stage, t)) :
    Aside here id P s t ∧
      (stage.why = .returned → Original id P host x stage.machine.memory) := by
  rw [Setup.plan, instantiate_patches] at hstart
  have hinert := instantiate_inert hstateless (link_eq_ok hlink).1 h.among hstart budget
  obtain ⟨-, ht, hsame⟩ := hinert s h.among stage t hstart
  exact ⟨⟨hsame, ht⟩, fun hreturned =>
    ⟨linked, budget, s, stage, t, hlink, h.among, hstart, hreturned, rfl⟩⟩

theorem initialMemory {budget : Nat} {r : Except EngineError ByteArray}
    (hrun : (EngineHost.initialMemory budget host x.config (x.plan id ps)).run s = some (r, t)) :
    Aside here id P s t ∧ ∀ memory, r = .ok memory → Original id P host x memory := by
  rcases initialMemory_eq_some hrun with ⟨e, _, rfl, rfl⟩ | ⟨linked, stage, hlink, hstart, hr⟩
  · exact ⟨⟨.refl, h.among⟩, nofun⟩
  obtain ⟨haside, horiginal⟩ := h.instantiate hstateless hlink hstart
  refine ⟨haside, fun memory hok => ?_⟩
  rcases hr with ⟨_, _, rfl⟩ | ⟨_, _, rfl⟩ | ⟨hreturned, rfl⟩
  · cases hok
  · cases hok
  · have hshows : (x.plan id ps).module.showsMemory = true := x.shows
    rw [if_pos hshows] at hok
    rw [← Except.ok.inj hok]
    exact horiginal hreturned

/-- After capturing there is an image, with the patches as they were, or nothing
has changed. -/
theorem capture {budget : Nat} :
    Follows s (Tracer.capture budget host here id).run (Tracer.capture budget host here id).run
      fun r t => (∃ e, r = .error e ∧ Upkept here id P host x ps image t) ∨
        ∃ memory, r = .ok { x.slot with patches := ps, image := some memory } ∧
          Upkept here id P host x ps (some memory) t := by
  unfold Tracer.capture
  refine Follows.lift_step rfl ?_
  refine Follows.ofExcept_bind (fun e _ => .inl ⟨e, rfl, h⟩) fun slot hslot => ?_
  cases h.there.symm.trans (Tracer.slot_eq_ok_iff.1 hslot)
  dsimp only
  split
  case isTrue himage =>
    obtain ⟨memory, rfl⟩ := Option.isSome_iff_exists.1 himage
    exact Follows.pure (.inr ⟨memory, rfl, h⟩)
  case isFalse himage =>
    obtain rfl : image = none := by simpa using himage
    refine Follows.ofExcept_bind (fun e _ => .inl ⟨e, rfl, h⟩) fun plan hplan => ?_
    cases h.plan.symm.trans hplan
    rw [h.settings]
    refine Follows.run_bind (P := fun r t => Aside here id P s t ∧
      ∀ memory, r = .ok memory → Original id P host x memory) ?_ ?_ ?_
    · exact fun r t hrun => ⟨hrun, h.initialMemory hstateless hrun⟩
    · exact fun e t hp => .inl ⟨e, rfl, h.aside hp.1⟩
    · intro memory t hp
      have haside := h.aside hp.1
      refine Follows.lift_step rfl ?_
      refine Follows.ofExcept_bind (fun e _ => .inl ⟨e, rfl, haside⟩) fun slot hslot => ?_
      cases haside.there.symm.trans (Tracer.slot_eq_ok_iff.1 hslot)
      -- Nothing has been recorded before there was an image.
      have hnone : ps = [] := by
        cases h.imaged
        rfl
      have himaged : Imaged id P host x ps (some memory) := by
        rw [hnone]
        exact .shown (hp.2 memory rfl) (by simp)
      refine Follows.lift_step rfl ?_
      exact Follows.pure (.inr ⟨memory, rfl, haside.write hstateless.written himaged⟩)

/-- What is shown is the image. -/
theorem snapshot {budget : Nat} {r : Except EngineError ByteArray}
    (hrun : (Tracer.snapshot budget host here id).run s = some (r, t)) :
    ∃ image', Upkept here id P host x ps image' t ∧ ∀ memory, r = .ok memory →
      image' = some memory := by
  have hfollows : Follows s (Tracer.snapshot budget host here id).run
      (Tracer.snapshot budget host here id).run fun r t =>
        ∃ image', Upkept here id P host x ps image' t ∧ ∀ memory, r = .ok memory →
          image' = some memory := by
    unfold Tracer.snapshot
    refine Follows.run_bind (h.capture hstateless) ?_ ?_
    · intro e t hcaptured
      rcases hcaptured with ⟨_, _, hkept⟩ | ⟨_, ⟨⟩, _⟩
      exact ⟨image, hkept, nofun⟩
    · intro slot t hcaptured
      rcases hcaptured with ⟨_, ⟨⟩, _⟩ | ⟨memory, ⟨⟩, hkept⟩
      refine Follows.pure ⟨some memory, hkept, fun memory' heq => ?_⟩
      rw [← Except.ok.inj heq]
      rfl
  exact (hfollows r t hrun).2

/-- A patch goes into the image and onto the record, or into neither. -/
theorem patch {budget : Nat} {offset length : UInt32} {data : ByteArray}
    {r : Except EngineError Unit}
    (hrun : (Tracer.patch budget host here id offset length data).run s = some (r, t)) :
    ∃ ps' image', Upkept here id P host x ps' image' t := by
  have hfollows : Follows s (Tracer.patch budget host here id offset length data).run
      (Tracer.patch budget host here id offset length data).run fun _ t =>
        ∃ ps' image', Upkept here id P host x ps' image' t := by
    unfold Tracer.patch
    refine Follows.ofExcept_bind (fun _ _ => ⟨ps, image, h⟩) fun p _ => ?_
    refine Follows.run_bind (h.capture hstateless) ?_ ?_
    · intro e t hcaptured
      rcases hcaptured with ⟨_, _, hkept⟩ | ⟨_, ⟨⟩, _⟩
      exact ⟨ps, image, hkept⟩
    · intro slot t hcaptured
      rcases hcaptured with ⟨_, ⟨⟩, _⟩ | ⟨memory, ⟨⟩, hkept⟩
      refine Follows.ofExcept_bind (fun _ _ => ⟨ps, some memory, hkept⟩) fun patched hpatched => ?_
      have himaged := hkept.imaged.patch hpatched
      refine Follows.lift_step rfl ?_
      exact Follows.self rfl ⟨_, _, hkept.write hstateless.written himaged⟩
  exact (hfollows r t hrun).2

omit h in
/-- Whatever is done with it in between, an engine is kept up. -/
theorem handled {s' : σ} (h : Upkept here id P host x ps image s)
    (hhandled : Relation.ReflTransGen (Handled here id P host) s s') :
    ∃ ps' image', Upkept here id P host x ps' image' s' := by
  induction hhandled with
  | refl => exact ⟨ps, image, h⟩
  | tail _ hstep ih =>
    obtain ⟨ps', image', hkept⟩ := ih
    cases hstep with
    | aside haside => exact ⟨ps', image', hkept.aside haside⟩
    | patched hrun => exact hkept.patch hstateless hrun
    | shown hrun =>
      obtain ⟨image'', hkept', -⟩ := hkept.snapshot hstateless hrun
      exact ⟨ps', image'', hkept'⟩

end Upkept

/-! ## Executions -/

/-- A module that has just been installed has neither an image nor patches. -/
theorem upkept_of_install {binary : Guest.Binary} {m : Guest.Module} {tracer : Tracer}
    {slot : TracerSlot} (hbinary : binary.compile = .ok m) (hshows : m.showsMemory = true)
    (hinstall : (here.get s).install id binary = .ok tracer)
    (hslot : tracer.slots[id]? = some slot) (hs : P (here.set tracer s)) :
    ∃ x : Setup, x.config = tracer.config ∧ x.slot = slot ∧
      Upkept here id P host x [] none (here.set tracer s) := by
  obtain ⟨old, m', -, hbinary', -, rfl⟩ := Tracer.install_eq_ok_iff.1 hinstall
  cases hbinary.symm.trans hbinary'
  rw [Tracer.slots_setSlot, if_pos rfl, Option.some.injEq] at hslot
  subst hslot
  refine ⟨⟨(here.get s).config, _, m, rfl, hshows⟩, rfl, rfl, hs, ?_, ?_, .blank⟩
  · rw [here.get_set]
    rfl
  · rw [here.get_set, Tracer.slots_setSlot, if_pos rfl]

/-- A payload is handed back by an execution. -/
theorem Tracer.compute_eq_ok {plan : Plan} {budget : Nat} {payload : ByteArray}
    (hplan : (here.get s).plan id = .ok plan)
    (hrun : (Tracer.compute budget host here id).run s = some (.ok payload, t)) :
    ∃ memory u, (carryOut budget host (here.get s).config plan).run s =
      some (.ok { payload, memory }, u) := by
  obtain ⟨done, u, hcarried, ⟨hdone, _⟩ | ⟨_, ⟨⟩, _⟩⟩ := Tracer.compute_cases hplan hrun
  obtain ⟨⟨_, memory⟩, rfl, rfl⟩ := map_eq_ok_iff.1 hdone.symm
  exact ⟨memory, u, hcarried⟩

/-- A payload that is no status is the trace of a run to the end. -/
theorem carryOut_trace {config : TracerConfig} {plan : Plan} {budget : Nat} {payload : ByteArray}
    {memory : Option ByteArray} (htrace : TraceResult.decode payload = .ok (.success payload))
    (hcarried : (carryOut budget host config plan).run s = some (.ok { payload, memory }, t)) :
    ∃ linked stage ready f final u,
      link config plan.bindings plan.module = .ok linked ∧
      instantiate budget host config plan linked s = some (stage, u) ∧
      stage.why = .returned ∧
      prepareMemory config plan stage.machine stage.trace = .ok ready ∧
      plan.module.entry? config = some f ∧
      Runs host plan (plan.module.env config) linked
        ⟨Guest.enter (plan.module.env config) f ready.1, ready.2, u⟩ final t ∧
      final.why = .returned ∧ payload = final.trace.payload := by
  have hstatus (status : TraceStatus) : payload ≠ status.payload := by
    intro heq
    rw [heq, TraceResult.decode_status] at htrace
    cases htrace
  generalize hr : (Except.ok { payload, memory } : Except EngineError Execution) = r at hcarried
  cases carryOut_eq_some_iff.1 hcarried with
  | unlinked | faultedEarly | unready | noEntry | faulted => cases hr
  | @stoppedEarly _ _ status =>
    cases hr
    exact absurd rfl (hstatus status)
  | @finished linked stage final ready f status u _ hlink hstart hreturned hready hentry hrun
      hwhy =>
    cases status with
    | some status =>
      cases hr
      exact absurd rfl (hstatus status)
    | none =>
      cases hr
      exact ⟨linked, stage, ready, f, final, u, hlink, hstart, hreturned, hready, hentry,
        runGuest_runs hrun, Stopped.status?_eq_none_iff.1 hwhy, rfl⟩

/-- An execution that comes to a trace starts its entry export with the image,
and the trace rebuilds it. -/
theorem Upkept.completes {memory payload : ByteArray}
    (h : Upkept here id P host x ps (some memory) s) (hstateless : Stateless here id P host x.slot)
    (hrecord : x.config.recordGlobalMemory = true) (hsize : memory.size < UInt32.size)
    {budget : Nat} (hrun : (Tracer.compute budget host here id).run s = some (.ok payload, t))
    (htrace : TraceResult.decode payload = .ok (.success payload)) :
    ∃ trace, Completes host x.config (x.plan id ps) s memory trace ∧ payload = trace.payload ∧
      trace.rebuild memory.size = .ok memory := by
  obtain ⟨_, u, hcarried⟩ := Tracer.compute_eq_ok h.plan hrun
  rw [h.settings] at hcarried
  obtain ⟨linked, stage, ready, f, final, v, hlink, hstart, hreturned, hready, hentry, hfinal,
    hwhy, hpayload⟩ := carryOut_trace htrace hcarried
  have hbegins : Begins host x.config (x.plan id ps) linked s stage.machine stage.trace v := by
    rcases instantiate_cases hstart with ⟨_, hbegins⟩ | ⟨hstopped, _⟩
    · exact hbegins
    · exact absurd hreturned hstopped
  -- The image comes from another fresh instance, which had the same memory.
  obtain ⟨hfits, rfl⟩ : (∀ p ∈ ps, p.FitsIn stage.machine.memory.size) ∧
      memory = patchAll stage.machine.memory ps := by
    have horiginal := (h.instantiate hstateless hlink hstart).2 hreturned
    cases h.imaged with
    | shown hbase hfits =>
      rw [horiginal.unique hstateless hbase]
      exact ⟨hfits, rfl⟩
  rw [size_patchAll hfits] at hsize
  have hmemory : ready.1.memory = patchAll stage.machine.memory ps := by
    obtain ⟨-, hmachine, -, -⟩ := prepareMemory_eq_ok hready
    rw [hmachine]
    rfl
  have hcompletes := Completes.intro hlink hbegins hready hentry hfinal hwhy
  rw [Guest.enter_memory, hmemory] at hcompletes
  have hrebuild := rebuild_of_prepared x.shows hrecord hbegins.trace hready hfinal.trace hsize
  rw [hmemory] at hrebuild
  exact ⟨final.trace, hcompletes, hpayload, hrebuild⟩

end

end EngineHost
