import EngineHost.Proofs.Session.Computing
import EngineHost.Proofs.Tracer.Rebuilding
/-
Traces as witnesses of memory.  What a snapshot shows, the next trace tells of,
as long as the engine's entries are stateless.  In a session these are the
entries that answer by themselves.
-/
namespace EngineHost

/-- A trace is a faithful witness of the memory that the guest started with.
After a module was installed, and after any patches and snapshots since, let a
snapshot show a memory, and let the execution that comes next hand back a trace.
Then the entry export has started with exactly this memory, and the regions of
the trace, written over zeros in their order, give it back. -/
theorem trace_witnesses_memory {σ : Type} {here : Place σ Tracer} {id : EngineId} {P : σ → Prop}
    {host : Host σ} {binary : Guest.Binary} {m : Guest.Module} {tracer : Tracer}
    {slot : TracerSlot} {s₀ s t t' u : σ} {budget budget' : Nat} {memory payload : ByteArray}
    (hbinary : binary.compile = .ok m) (hshows : m.showsMemory = true)
    (hinstall : (here.get s₀).install id binary = .ok tracer)
    (hslot : tracer.slots[id]? = some slot)
    (hrecord : tracer.config.recordGlobalMemory = true)
    (hstateless : Stateless here id P host slot) (hs₀ : P s₀)
    (hhandled : Relation.ReflTransGen (Handled here id P host) (here.set tracer s₀) s)
    (hsnapshot : (Tracer.snapshot budget host here id).run s = some (.ok memory, t))
    (hsize : memory.size < UInt32.size) (haside : Aside here id P t t')
    (hcompute : (Tracer.compute budget' host here id).run t' = some (.ok payload, u))
    (htrace : TraceResult.decode payload = .ok (.success payload)) :
    ∃ plan trace, (here.get t').plan id = .ok plan ∧
      Completes host tracer.config plan t' memory trace ∧ payload = trace.payload ∧
      trace.rebuild memory.size = .ok memory := by
  obtain ⟨x, hconfig, rfl, hstart⟩ :=
    upkept_of_install hbinary hshows hinstall hslot (hstateless.written s₀ tracer hs₀)
  obtain ⟨ps, image, hkept⟩ := hstart.handled hstateless hhandled
  obtain ⟨image', hshown, himage⟩ := hkept.snapshot hstateless hsnapshot
  rw [himage memory rfl] at hshown
  have hcurrent := hshown.aside haside
  rw [← hconfig] at hrecord ⊢
  obtain ⟨trace, hcompletes, hpayload, hrebuild⟩ :=
    hcurrent.completes hstateless hrecord hsize hcompute htrace
  exact ⟨_, trace, hcurrent.plan, hcompletes, hpayload, hrebuild⟩

/-! ## Entries that answer by themselves -/

/-- Whatever they answer, and whether or not they leave marks, such entries are
stateless. -/
theorem stateless_of_standalone {go : Callback → Run Int32} {index : Nat} {id : EngineId}
    {slot : TracerSlot}
    (hentries : ∀ (name : String) b, slot.bindings[name]? = some b →
      b.entry.target ≠ .dispatcher)
    (hlistener : slot.listener ≠ some .dispatcher) :
    Stateless (foreignAt index).tracer id (fun _ => True) (sessionHost go) slot where
  entries name b hb call := by
    cases htarget : b.entry.target with
    | dispatcher => exact absurd htarget (hentries name b hb)
    | standalone noted answer =>
      refine ⟨answer id name call, fun s _ r t hrun => ?_⟩
      simp only [sessionHost, htarget] at hrun
      cases noted <;> cases hrun <;> exact ⟨rfl, trivial, .refl⟩
  listener entry hentry item := by
    cases entry with
    | dispatcher => exact absurd hentry hlistener
    | standalone noted answer =>
      refine ⟨answer id item, fun s _ r t hrun => ?_⟩
      simp only [sessionHost] at hrun
      cases noted <;> cases hrun <;> exact ⟨rfl, trivial, .refl⟩
  written _ _ _ := trivial

/-! ## A guest that asks how much memory it is to have -/

/-- The trace that the installed module comes to from here, if it returns. -/
def Tracer.trace? {σ : Type} (budget : Nat) (host : Host σ) (t : Tracer) (id : EngineId) (s : σ) :
    Option Trace := do
  let plan ← (t.plan id).toOption
  let linked ← (link t.config plan.bindings plan.module).toOption
  let (stage, s) ← instantiate budget host t.config plan linked s
  let ready ← (prepareMemory t.config plan stage.machine stage.trace).toOption
  let f ← plan.module.entry? t.config
  let env := plan.module.env t.config
  let (final, _) ← runGuest host plan env linked budget (Guest.enter env f ready.1) ready.2 s
  match stage.why, final.why with
  | .returned, .returned => return final.trace
  | _, _ => none

theorem Tracer.compute_of_trace? {σ : Type} {budget : Nat} {host : Host σ} {here : Place σ Tracer}
    {id : EngineId} {s t : σ} {trace : Trace} {payload : ByteArray}
    (htrace : (here.get s).trace? budget host id s = some trace)
    (hrun : (Tracer.compute budget host here id).run s = some (.ok payload, t)) :
    payload = trace.payload := by
  unfold Tracer.trace? at htrace
  simp only [Option.bind_eq_bind, Option.bind_eq_some_iff, toOption_eq_some_iff] at htrace
  obtain ⟨plan, hplan, linked, hlink, ⟨stage, u⟩, hstart, ready, hready, f, hentry, ⟨final, v⟩,
    hfinal, h⟩ := htrace
  split at h
  case h_1 hwhy hwhy' =>
    have hstatus := Stopped.status?_eq_none_iff.2 hwhy'
    have hcarried := carryOut_eq_some_iff.2
      (.finished hlink hstart hwhy hready hentry hfinal hstatus)
    obtain ⟨memory, w, hcarried'⟩ := Tracer.compute_eq_ok hplan hrun
    cases hcarried.symm.trans hcarried'
    exact congrArg Trace.payload (Option.some.inj h)
  case h_2 => cases h

/-- A guest whose start function makes as much memory as an import tells it to. -/
def summingGuest : Guest.Module where
  imports := [⟨"env", "sum", .func { params := [.i32, .i32], results := [.i32] }⟩]
  memories := [{ min := 0 }]
  funcs := #[{ code := [.const32 0, .const32 1, .call 0, .memoryGrow, .drop] }, {}]
  exports := [⟨"main", .func, 2⟩, ⟨"memory", .memory, 0⟩]
  start := some 1

/-- The slot it is installed in. -/
def summingSlot : TracerSlot where
  bindings := (∅ : Bindings).insert "sum" { shape := .i32 2, entry := .summing .i32 }
  listener := some .accepting

/-- The slot has one binding. -/
theorem summingSlot_binding {name : String} {b : Binding}
    (h : summingSlot.bindings[name]? = some b) :
    b = { shape := .i32 2, entry := .summing .i32 } := by
  change ((∅ : Bindings).insert "sum" _)[name]? = some b at h
  rw [Std.ExtTreeMap.getElem?_insert, Std.ExtTreeMap.getElem?_empty] at h
  split at h
  · cases h
    rfl
  · cases h

/-- Where it is installed, and what it can reach from there. -/
abbrev summingPlace : Place Session Tracer := (foreignAt 0).tracer

abbrev summingHost : Host Session := hostWithin 1 1

def summingTracer : Tracer :=
  (heldTracer summingSlot).setSlot ⟨1⟩ { summingSlot with module := some summingGuest }

theorem summingGuest_compiles :
    (Guest.Binary.described summingGuest).compile = .ok summingGuest := by
  with_unfolding_all rfl

theorem summingGuest_installed :
    (summingPlace.get (heldSession summingSlot)).install ⟨1⟩ (.described summingGuest) =
      .ok summingTracer :=
  Tracer.install_eq_ok_iff.2 ⟨summingSlot, summingGuest, rfl, summingGuest_compiles, by rfl, rfl⟩

section

variable (host : Host Session) (here : Place Session Tracer) (id : EngineId)

/-- Look at the memory, patch it past its end, patch it, look at it again, and
run the guest.  The answer is whether all of this goes as it should. -/
def Session.trial (s : Session) : Option Bool := do
  let (first, s) ← (Tracer.snapshot 30 host here id).run s
  let (refused, s) ← (Tracer.patch 30 host here id 65536 1 ⟨#[7]⟩).run s
  let (accepted, s) ← (Tracer.patch 30 host here id 8 2 ⟨#[7, 7]⟩).run s
  let (shown, s) ← (Tracer.snapshot 30 host here id).run s
  let (payload, _) ← (Tracer.compute 30 host here id).run s
  let _ ← (here.get s).trace? 30 host id s
  return first.toOption.any (·.size = 65536) && !refused.toBool && accepted.toBool &&
    shown.toBool && payload.toBool

end

theorem trial_eq_true {host : Host Session} {here : Place Session Tracer} {id : EngineId}
    {P : Session → Prop} {s₀ : Session} (h : s₀.trial host here id = some true) :
    ∃ s₁ s t u first memory payload,
      (Tracer.snapshot 30 host here id).run s₀ = some (.ok first, s₁) ∧ first.size = 65536 ∧
      Relation.ReflTransGen (Handled here id P host) s₁ s ∧
      (Tracer.snapshot 30 host here id).run s = some (.ok memory, t) ∧
      (Tracer.compute 30 host here id).run t = some (.ok payload, u) ∧
      TraceResult.decode payload = .ok (.success payload) := by
  unfold Session.trial at h
  simp only [Option.bind_eq_bind, Option.bind_eq_some_iff] at h
  obtain ⟨⟨first, s₁⟩, hfirst, ⟨refused, s₂⟩, hrefused, ⟨accepted, s⟩, haccepted, ⟨shown, t⟩,
    hshown, ⟨payload, u⟩, hpayload, trace, htrace, h⟩ := h
  have h := Option.some.inj h
  simp only [Bool.and_eq_true, Option.any_eq_true, toOption_eq_some_iff, toBool_eq_true_iff,
    decide_eq_true_eq] at h
  obtain ⟨⟨⟨⟨⟨first, rfl, hsize⟩, _⟩, _⟩, ⟨memory, rfl⟩⟩, ⟨payload, rfl⟩⟩ := h
  obtain rfl := Tracer.compute_of_trace? htrace hpayload
  exact ⟨s₁, s, t, u, first, memory, trace.payload, hfirst, hsize,
    .tail (.single (.patched hrefused)) (.patched haccepted), hshown, hpayload,
    TraceResult.decode_trace trace⟩

theorem summingSlot_stateless :
    Stateless summingPlace ⟨1⟩ (fun _ => True) summingHost
      { summingSlot with module := some summingGuest } := by
  refine stateless_of_standalone (fun name b hb => ?_) nofun
  obtain rfl := summingSlot_binding hb
  nofun

/-- The session after it was installed. -/
def summingSession : Session := summingPlace.set summingTracer (heldSession summingSlot)

theorem summingSession_trial :
    summingSession.trial summingHost summingPlace ⟨1⟩ = some true := by
  decide +kernel

/-- What is shown after the patches is what the trace tells of. -/
theorem summingSession_witnessed :
    Stateless summingPlace ⟨1⟩ (fun _ => True) summingHost
        { summingSlot with module := some summingGuest } ∧
      ∃ s t u memory payload,
        Relation.ReflTransGen (Handled summingPlace ⟨1⟩ (fun _ => True) summingHost)
          summingSession s ∧
        (Tracer.snapshot 30 summingHost summingPlace ⟨1⟩).run s = some (.ok memory, t) ∧
        memory.size < UInt32.size ∧
        (Tracer.compute 30 summingHost summingPlace ⟨1⟩).run t = some (.ok payload, u) ∧
        TraceResult.decode payload = .ok (.success payload) ∧
        ∃ plan trace, (summingPlace.get t).plan ⟨1⟩ = .ok plan ∧
          Completes summingHost {} plan t memory trace ∧ payload = trace.payload ∧
          trace.rebuild memory.size = .ok memory := by
  have hstateless := summingSlot_stateless
  have hslot : summingTracer.slots[(⟨1⟩ : EngineId)]? =
      some { summingSlot with module := some summingGuest } := by
    rw [summingTracer, Tracer.slots_setSlot, if_pos rfl]
  obtain ⟨s₁, s, t, u, first, memory, payload, hfirst, hpage, hhandled, hshown, hpayload, htrace⟩ :=
    trial_eq_true (P := fun _ => True) summingSession_trial
  have hsize : memory.size < UInt32.size := by
    obtain ⟨x, -, hx, hstart⟩ : ∃ x : Setup, x.config = summingTracer.config ∧
        x.slot = { summingSlot with module := some summingGuest } ∧
        Upkept summingPlace ⟨1⟩ (fun _ => True) summingHost x [] none summingSession :=
      upkept_of_install summingGuest_compiles rfl summingGuest_installed hslot trivial
    rw [← hx] at hstateless
    obtain ⟨image, hkept, himage⟩ := hstart.snapshot hstateless hfirst
    obtain ⟨ps, _, hkept'⟩ := hkept.handled hstateless hhandled
    obtain ⟨image', hkept'', himage'⟩ := hkept'.snapshot hstateless hshown
    rw [himage first rfl] at hkept
    rw [himage' memory rfl] at hkept''
    rw [← hkept.imaged.size_eq hstateless hkept''.imaged, hpage]
    decide
  have hall : Relation.ReflTransGen (Handled summingPlace ⟨1⟩ (fun _ => True) summingHost)
      summingSession s := .head (.shown hfirst) hhandled
  have hwitnessed := trace_witnesses_memory summingGuest_compiles rfl summingGuest_installed hslot
    rfl summingSlot_stateless trivial hall hshown hsize ⟨.refl, trivial⟩ hpayload htrace
  exact ⟨summingSlot_stateless, s, t, u, memory, payload, hall, hshown, hsize, hpayload, htrace,
    hwitnessed⟩

end EngineHost
