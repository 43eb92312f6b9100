import EngineHost.Proofs.Tracer.Failing
import EngineHost.Proofs.Tracer.Retelling
/-
Engines that stand level.  Two engines that have the same settings and the same
slot, and entries that answer both alike, go on alike: whatever is asked of
either of them, from then on, has the same response.  They may live in two
worlds and go by two identities, and then what is said of the one is said of the
other.
-/
namespace EngineHost

/-- An engine where it is: its host, the place of the engines and its identity
among them, and the worlds that there can be, whatever is written there. -/
structure Seat (σ : Type) where
  host : Host σ
  here : Place σ Tracer
  id : EngineId
  among : σ → Prop
  written : ∀ s tracer, among s → among (here.set tracer s)

section

variable (E : EntryPoint → Prop) (L : LogEntry → Prop)

/-- A slot that refers to these entries only. -/
structure TracerSlot.Refers (slot : TracerSlot) : Prop where
  entries : ∀ (name : String) b, slot.bindings[name]? = some b → E b.entry
  listener : ∀ entry, slot.listener = some entry → L entry

/-- A request that brings no other entries. -/
def Tracer.Request.Refers : Tracer.Request → Prop
  | .bind _ binding => E binding.entry
  | .listen entry => L entry
  | _ => True

variable {σ τ : Type}

/-- Two engines whose calls are answered alike by these entries.  The entries
are functions of the call, and what they say of the one engine they say of the
other. -/
structure Twins (w : Retelling) (a : Seat σ) (b : Seat τ) : Prop where
  renamed : w.engine a.id = b.id
  enter : ∀ entry, E entry → ∀ name args, ∃ r?,
    Detached a.here a.among (a.host.enter entry a.id name (marshal a.id entry.path args)) r? ∧
      Detached b.here b.among (b.host.enter entry b.id name (marshal b.id entry.path args))
        (r?.map (·.mapError w.fault))
  deliver : ∀ entry, L entry → ∀ item, ∃ r?,
    Detached a.here a.among (a.host.deliver entry a.id item) r? ∧
      Detached b.here b.among (b.host.deliver entry b.id item) (r?.map (·.mapError w.fault))

/-- Two engines with the same settings and the same slot. -/
structure Level (a : Seat σ) (b : Seat τ) (s : σ) (x : τ) : Prop where
  among : a.among s ∧ b.among x
  config_eq : (b.here.get x).config = (a.here.get s).config
  slot_eq : (b.here.get x).slots[b.id]? = (a.here.get s).slots[a.id]?
  refers : ∀ slot, (a.here.get s).slots[a.id]? = some slot → slot.Refers E L

end

section

variable {E : EntryPoint → Prop} {L : LogEntry → Prop} {slot : TracerSlot}

theorem TracerSlot.Refers.bind (h : slot.Refers E L) {name : String} {binding : Binding}
    (hentry : E binding.entry) :
    { slot with bindings := slot.bindings.insert name binding : TracerSlot }.Refers E L where
  entries other b hb := by
    rw [Std.ExtTreeMap.getElem?_insert] at hb
    split at hb
    case isTrue =>
      cases hb
      exact hentry
    case isFalse => exact h.entries other b hb
  listener := h.listener

theorem TracerSlot.Refers.listen (h : slot.Refers E L) {entry : LogEntry} (hentry : L entry) :
    { slot with listener := some entry : TracerSlot }.Refers E L where
  entries := h.entries
  listener other hother := by
    cases hother
    exact hentry

end

/-- A response to the one engine as the other gets it. -/
def Tracer.Response.retold (w : Retelling) : Tracer.Response → Tracer.Response
  | .failed e => .failed (e.retold w)
  | r => r

theorem Tracer.Response.retold_symm (w : Retelling) (r : Tracer.Response) :
    (r.retold w).retold w.symm = r := by
  cases r with
  | failed e => exact congrArg _ (e.retold_symm w)
  | done | bytes | flag => rfl

section

variable {E : EntryPoint → Prop} {L : LogEntry → Prop} {σ τ : Type} {w : Retelling} {a : Seat σ}
  {b : Seat τ} {s t : σ} {x y : τ}

/-! ## Both ways -/

theorem Twins.symm (h : Twins E L w a b) : Twins E L w.symm b a := by
  have hback {α : Type} (r? : Option (Except BindingFault α)) :
      (r?.map (·.mapError w.fault)).map (·.mapError w.symm.fault) = r? := by
    rcases r? with _ | _ | _ <;> simp [Except.mapError, Retelling.symm]
  refine ⟨?_, fun entry hentry name args => ?_, fun entry hentry item => ?_⟩
  · rw [← h.renamed]
    exact w.engine.symm_apply_apply a.id
  · obtain ⟨r?, ha, hb⟩ := h.enter entry hentry name args
    exact ⟨_, hb, (hback r?).symm ▸ ha⟩
  · obtain ⟨r?, ha, hb⟩ := h.deliver entry hentry item
    exact ⟨_, hb, (hback r?).symm ▸ ha⟩

namespace Level

theorem symm (h : Level E L a b s x) : Level E L b a x s where
  among := h.among.symm
  config_eq := h.config_eq.symm
  slot_eq := h.slot_eq.symm
  refers slot hslot := h.refers slot (h.slot_eq ▸ hslot)

/-- Nothing has been done to the engines on either side. -/
theorem resting (h : Level E L a b s x)
    (hrest : Resting a.here a.among b.here b.among (a.here.get s) (b.here.get x) t y) :
    Level E L a b t y where
  among := ⟨hrest.1.1, hrest.2.1⟩
  config_eq := by
    rw [hrest.1.2, hrest.2.2]
    exact h.config_eq
  slot_eq := by
    rw [hrest.1.2, hrest.2.2]
    exact h.slot_eq
  refers := hrest.1.2.symm ▸ h.refers

/-- Both sides get the same slot written. -/
theorem write (h : Level E L a b s x) {slot : TracerSlot} (hrefers : slot.Refers E L) :
    Level E L a b (a.here.set ((a.here.get s).setSlot a.id slot) s)
      (b.here.set ((b.here.get x).setSlot b.id slot) x) where
  among := ⟨a.written _ _ h.among.1, b.written _ _ h.among.2⟩
  config_eq := by
    rw [a.here.get_set, b.here.get_set]
    exact h.config_eq
  slot_eq := by
    simp only [a.here.get_set, b.here.get_set, Tracer.slots_setSlot, if_true]
  refers other hother := by
    rw [a.here.get_set, Tracer.slots_setSlot, if_pos rfl] at hother
    cases hother
    exact hrefers

end Level

/-! ## Runs on both sides -/

theorem Detached.map {α β : Type} {here : Place σ Tracer} {P : σ → Prop} {c : Turn σ α}
    {r? : Option α} (h : Detached here P c r?) (f : α → β) :
    Detached here P (do return f (← c)) (r?.map f) := by
  intro s hs
  obtain ⟨hresult, hkept⟩ := h s hs
  constructor
  · rw [← hresult]
    show ((c s).bind fun p => some (f p.1, p.2)).map Prod.fst = _
    cases c s <;> rfl
  · intro r t hrun
    obtain ⟨_, hrun, -⟩ := Turn.bind_pure_eq_some_iff.1 hrun
    exact hkept _ t hrun

namespace Twins

variable (h : Twins E L w a b)

include h

/-- While a guest runs, both engines stay as they are. -/
theorem hostsAlike {slot : TracerSlot} (hrefers : slot.Refers E L) {u u' : Tracer} :
    HostsAlike (Resting a.here a.among b.here b.among u u') a.id b.id slot (a.host.retelling w)
      b.host where
  enter name binding hbinding args := by
    obtain ⟨r?, ha, hb⟩ := h.enter _ (hrefers.entries name binding hbinding) name args
    exact (ha.map _).coupled hb
  deliver entry hentry item := by
    obtain ⟨r?, ha, hb⟩ := h.deliver _ (hrefers.listener entry hentry) item
    exact (ha.map _).coupled hb

theorem carryOut (hlevel : Level E L a b s x) {slot : TracerSlot} (hrefers : slot.Refers E L)
    {m : Guest.Module} {config : TracerConfig} {budget : Nat} {r : Except EngineError Execution}
    (hrun : (carryOut budget a.host config (slot.planOf a.id m)).run s = some (r, t)) :
    ∃ y, (EngineHost.carryOut budget b.host config (slot.planOf b.id m)).run x =
        some (r.mapError (EngineError.retold w), y) ∧ Level E L a b t y := by
  obtain ⟨y, hy, hrest⟩ := carryOut_coupled (h.hostsAlike hrefers) budget s x
    ⟨⟨hlevel.among.1, rfl⟩, hlevel.among.2, rfl⟩ _ t (carryOut_retold hrun)
  exact ⟨y, hy, hlevel.resting hrest⟩

theorem initialMemory (hlevel : Level E L a b s x) {slot : TracerSlot}
    (hrefers : slot.Refers E L) {m : Guest.Module} {config : TracerConfig} {budget : Nat}
    {r : Except EngineError ByteArray}
    (hrun : (initialMemory budget a.host config (slot.planOf a.id m)).run s = some (r, t)) :
    ∃ y, (EngineHost.initialMemory budget b.host config (slot.planOf b.id m)).run x =
        some (r.mapError (EngineError.retold w), y) ∧ Level E L a b t y := by
  obtain ⟨y, hy, hrest⟩ := initialMemory_coupled (h.hostsAlike hrefers) budget s x
    ⟨⟨hlevel.among.1, rfl⟩, hlevel.among.2, rfl⟩ _ t (initialMemory_retold hrun)
  exact ⟨y, hy, hlevel.resting hrest⟩

/-! ## Requests on both sides -/

theorem unknownEngine : (EngineError.unknownEngine a.id).retold w = .unknownEngine b.id :=
  congrArg _ h.renamed

theorem noBinary : (EngineError.noBinary a.id).retold w = .noBinary b.id :=
  congrArg _ h.renamed

variable (hlevel : Level E L a b s x) {budget : Nat}

include hlevel

theorem capturing {r : Except EngineError TracerSlot}
    (hcapture : Tracer.Capturing budget a.host a.here a.id s r t) :
    ∃ y, Tracer.Capturing budget b.host b.here b.id x (r.mapError (EngineError.retold w)) y ∧
      Level E L a b t y ∧ ∀ slot, r = .ok slot → slot.Refers E L := by
  cases hcapture with
  | unknown hnone =>
    rw [← hlevel.slot_eq] at hnone
    refine ⟨x, ?_, hlevel, nofun⟩
    rw [Except.mapError, h.unknownEngine]
    exact .unknown hnone
  | present hslot himage =>
    have hrefers := hlevel.refers _ hslot
    rw [← hlevel.slot_eq] at hslot
    refine ⟨x, .present hslot himage, hlevel, fun slot hok => ?_⟩
    cases hok
    exact hrefers
  | uninstalled hslot himage hmodule =>
    rw [← hlevel.slot_eq] at hslot
    refine ⟨x, ?_, hlevel, nofun⟩
    rw [Except.mapError, h.noBinary]
    exact .uninstalled hslot himage hmodule
  | failed hslot himage hmodule hrun =>
    obtain ⟨y, hy, hlevel'⟩ := h.initialMemory hlevel (hlevel.refers _ hslot) hrun
    rw [← hlevel.slot_eq] at hslot
    rw [← hlevel.config_eq] at hy
    exact ⟨y, .failed hslot himage hmodule hy, hlevel', nofun⟩
  | vanished hslot himage hmodule hrun hgone =>
    obtain ⟨y, hy, hlevel'⟩ := h.initialMemory hlevel (hlevel.refers _ hslot) hrun
    rw [← hlevel.slot_eq] at hslot
    rw [← hlevel.config_eq] at hy
    rw [← hlevel'.slot_eq] at hgone
    refine ⟨y, ?_, hlevel', nofun⟩
    rw [Except.mapError, h.unknownEngine]
    exact .vanished hslot himage hmodule hy hgone
  | captured hslot himage hmodule hrun hafter =>
    obtain ⟨y, hy, hlevel'⟩ := h.initialMemory hlevel (hlevel.refers _ hslot) hrun
    have hrefers := hlevel'.refers _ hafter
    rw [← hlevel.slot_eq] at hslot
    rw [← hlevel.config_eq] at hy
    rw [← hlevel'.slot_eq] at hafter
    refine ⟨_, .captured hslot himage hmodule hy hafter,
      hlevel'.write ⟨hrefers.entries, hrefers.listener⟩, fun slot hok => ?_⟩
    cases hok
    exact ⟨hrefers.entries, hrefers.listener⟩

omit hlevel in
theorem plan_error {r : EngineError} (hlevel : Level E L a b s x)
    (hplan : (a.here.get s).plan a.id = .error r) :
    (b.here.get x).plan b.id = .error (r.retold w) := by
  rw [Tracer.plan_eq_error_iff] at hplan ⊢
  rw [hlevel.slot_eq]
  rcases hplan with ⟨hnone, rfl⟩ | ⟨slot, hslot, hmodule, rfl⟩
  · exact .inl ⟨hnone, h.unknownEngine⟩
  · exact .inr ⟨slot, hslot, hmodule, h.noBinary⟩

theorem computing {r : Except EngineError ByteArray}
    (hcompute : Tracer.Computing budget a.host a.here a.id s r t) :
    ∃ y, Tracer.Computing budget b.host b.here b.id x (r.mapError (EngineError.retold w)) y ∧
      Level E L a b t y := by
  have hcarried {plan : Plan} {r : Except EngineError Execution} {u : σ}
      (hplan : (a.here.get s).plan a.id = .ok plan)
      (hrun : (EngineHost.carryOut budget a.host (a.here.get s).config plan).run s =
        some (r, u)) :
      ∃ plan' y, (b.here.get x).plan b.id = .ok plan' ∧
        (EngineHost.carryOut budget b.host (b.here.get x).config plan').run x =
          some (r.mapError (EngineError.retold w), y) ∧ Level E L a b u y := by
    obtain ⟨slot, m, hslot, hmodule, rfl⟩ := Tracer.plan_eq_ok_iff.1 hplan
    obtain ⟨y, hy, hlevel'⟩ := h.carryOut hlevel (hlevel.refers slot hslot) hrun
    rw [← hlevel.slot_eq] at hslot
    rw [← hlevel.config_eq] at hy
    exact ⟨_, y, Tracer.plan_eq_ok_iff.2 ⟨slot, m, hslot, hmodule, rfl⟩, hy, hlevel'⟩
  cases hcompute with
  | unplanned hplan => exact ⟨x, .unplanned (h.plan_error hlevel hplan), hlevel⟩
  | failed hplan hrun =>
    obtain ⟨plan', y, hplan', hy, hlevel'⟩ := hcarried hplan hrun
    exact ⟨y, .failed hplan' hy, hlevel'⟩
  | unkept hplan hrun =>
    obtain ⟨plan', y, hplan', hy, hlevel'⟩ := hcarried hplan hrun
    exact ⟨y, .unkept hplan' hy, hlevel'⟩
  | vanished hplan hrun hgone =>
    obtain ⟨plan', y, hplan', hy, hlevel'⟩ := hcarried hplan hrun
    rw [← hlevel'.slot_eq] at hgone
    refine ⟨y, ?_, hlevel'⟩
    rw [Except.mapError, h.unknownEngine]
    exact .vanished hplan' hy hgone
  | kept hplan hrun hslot =>
    obtain ⟨plan', y, hplan', hy, hlevel'⟩ := hcarried hplan hrun
    have hrefers := hlevel'.refers _ hslot
    rw [← hlevel'.slot_eq] at hslot
    exact ⟨_, .kept hplan' hy hslot, hlevel'.write ⟨hrefers.entries, hrefers.listener⟩⟩

theorem patching {offset length : UInt32} {data : ByteArray} {r : Except EngineError Unit}
    (hpatch : Tracer.Patching budget a.host a.here a.id offset length data s r t) :
    ∃ y, Tracer.Patching budget b.host b.here b.id offset length data x
        (r.mapError (EngineError.retold w)) y ∧ Level E L a b t y := by
  cases hpatch with
  | mismatched hmake =>
    obtain rfl := Patch.make_eq_error hmake
    exact ⟨x, .mismatched hmake, hlevel⟩
  | uncaptured hmake hcapture =>
    obtain ⟨y, hcapture', hlevel', -⟩ := h.capturing hlevel hcapture
    exact ⟨y, .uncaptured hmake hcapture', hlevel'⟩
  | outside hmake hcapture happly =>
    obtain ⟨y, hcapture', hlevel', -⟩ := h.capturing hlevel hcapture
    obtain ⟨⟨_, _, _, rfl⟩, -⟩ := Patch.applyTo_error happly
    exact ⟨y, .outside hmake hcapture' happly, hlevel'⟩
  | accepted hmake hcapture happly =>
    obtain ⟨y, hcapture', hlevel', hrefers⟩ := h.capturing hlevel hcapture
    have hrefers := hrefers _ rfl
    exact ⟨_, .accepted hmake hcapture' happly,
      hlevel'.write ⟨hrefers.entries, hrefers.listener⟩⟩

theorem install_error {binary : Guest.Binary} {e : EngineError}
    (hinstall : (a.here.get s).install a.id binary = .error e) :
    (b.here.get x).install b.id binary = .error (e.retold w) := by
  rw [Tracer.install_eq_error_iff] at hinstall ⊢
  rw [hlevel.slot_eq, hlevel.config_eq]
  rcases hinstall with ⟨hnone, rfl⟩ | ⟨hsome, ⟨flaw, hcompile, rfl⟩ | ⟨m, hcompile, happrove⟩⟩
  · exact .inl ⟨hnone, h.unknownEngine⟩
  · exact .inr ⟨hsome, .inl ⟨flaw, hcompile, rfl⟩⟩
  · obtain ⟨reason, rfl⟩ := approve_error happrove
    exact .inr ⟨hsome, .inr ⟨m, hcompile, happrove⟩⟩

/-- Whatever is asked of the one engine, the other one has a response to as well,
and it is the same. -/
theorem performing {request : Tracer.Request} (hrefers : request.Refers E L) {r : Tracer.Response}
    (hrun : request.perform budget a.host a.here a.id s = some (r, t)) :
    ∃ y, request.perform budget b.host b.here b.id x = some (r.retold w, y) ∧
      Level E L a b t y := by
  have hfailed {α : Type} {f : α → Tracer.Response} (hf : ∀ v, (f v).retold w = f v)
      (r : Except EngineError α) :
      (Tracer.Response.ofResult f r).retold w =
        .ofResult f (r.mapError (EngineError.retold w)) := by
    cases r with
    | error e => rfl
    | ok v => exact hf v
  cases request with
  | create =>
    obtain ⟨rfl, rfl⟩ := Tracer.perform_create_iff.1 hrun
    refine ⟨_, Tracer.perform_create_iff.2 ⟨rfl, rfl⟩, hlevel.write ⟨?_, nofun⟩⟩
    intro name binding hbinding
    rw [Std.ExtTreeMap.getElem?_empty] at hbinding
    cases hbinding
  | install binary =>
    rcases Tracer.perform_install_iff.1 hrun with
      ⟨tracer, hinstall, rfl, rfl⟩ | ⟨e, hinstall, rfl, rfl⟩
    · obtain ⟨slot, m, hslot, hcompile, happrove, rfl⟩ := Tracer.install_eq_ok_iff.1 hinstall
      have hslotted := hlevel.refers slot hslot
      rw [← hlevel.slot_eq] at hslot
      rw [← hlevel.config_eq] at happrove
      have hinstall' := Tracer.install_eq_ok_iff.2 ⟨slot, m, hslot, hcompile, happrove, rfl⟩
      exact ⟨_, Tracer.perform_install_iff.2 (.inl ⟨_, hinstall', rfl, rfl⟩),
        hlevel.write ⟨hslotted.entries, hslotted.listener⟩⟩
    · have hinstall' := h.install_error hlevel hinstall
      exact ⟨x, Tracer.perform_install_iff.2 (.inr ⟨_, hinstall', rfl, rfl⟩), hlevel⟩
  | compute =>
    obtain ⟨result, hcompute, rfl⟩ := Tracer.perform_compute_iff.1 hrun
    obtain ⟨y, hcompute, hlevel'⟩ := h.computing hlevel hcompute
    exact ⟨y, Tracer.perform_compute_iff.2 ⟨_, hcompute, hfailed (fun _ => rfl) result⟩, hlevel'⟩
  | snapshot =>
    obtain ⟨result, hcapture, rfl⟩ := Tracer.perform_snapshot_iff.1 hrun
    obtain ⟨y, hcapture, hlevel', -⟩ := h.capturing hlevel hcapture
    refine ⟨y, Tracer.perform_snapshot_iff.2 ⟨_, hcapture, ?_⟩, hlevel'⟩
    cases result with
    | error | ok => rfl
  | patch offset length data =>
    obtain ⟨result, hpatch, rfl⟩ := Tracer.perform_patch_iff.1 hrun
    obtain ⟨y, hpatch, hlevel'⟩ := h.patching hlevel hpatch
    exact ⟨y, Tracer.perform_patch_iff.2 ⟨_, hpatch, hfailed (fun _ => rfl) result⟩, hlevel'⟩
  | bind name binding =>
    rcases Tracer.perform_bind_iff.1 hrun with ⟨_, hbind, rfl, rfl⟩ | ⟨hnone, rfl, rfl⟩
    · obtain ⟨haccepts, slot, hslot, rfl⟩ := Tracer.bind?_eq_some_iff.1 hbind
      have hslotted := hlevel.refers slot hslot
      rw [← hlevel.slot_eq] at hslot
      refine ⟨_, Tracer.perform_bind_iff.2 (.inl ⟨_, ?_, rfl, rfl⟩),
        hlevel.write (hslotted.bind hrefers)⟩
      exact Tracer.bind?_eq_some_iff.2 ⟨haccepts, slot, hslot, rfl⟩
    · rw [Tracer.bind?_eq_none_iff, ← hlevel.slot_eq, ← Tracer.bind?_eq_none_iff] at hnone
      exact ⟨x, Tracer.perform_bind_iff.2 (.inr ⟨hnone, rfl, rfl⟩), hlevel⟩
  | listen entry =>
    rcases Tracer.perform_listen_iff.1 hrun with ⟨_, hlisten, rfl, rfl⟩ | ⟨hnone, rfl, rfl⟩
    · obtain ⟨slot, hslot, rfl⟩ := Tracer.listen?_eq_some_iff.1 hlisten
      have hslotted := hlevel.refers slot hslot
      rw [← hlevel.slot_eq] at hslot
      refine ⟨_, Tracer.perform_listen_iff.2 (.inl ⟨_, ?_, rfl, rfl⟩),
        hlevel.write (hslotted.listen hrefers)⟩
      exact Tracer.listen?_eq_some_iff.2 ⟨slot, hslot, rfl⟩
    · rw [Tracer.listen?_eq_none_iff, ← hlevel.slot_eq, ← Tracer.listen?_eq_none_iff] at hnone
      exact ⟨x, Tracer.perform_listen_iff.2 (.inr ⟨hnone, rfl, rfl⟩), hlevel⟩

omit hlevel in
theorem responds (hlevel : Level E L a b s x) {exchange : List (Tracer.Request × Tracer.Response)}
    (hrefers : ∀ q ∈ exchange, q.1.Refers E L)
    (hresponds : Tracer.Responds a.host a.here s (exchange.map fun q => (a.id, q))) :
    Tracer.Responds b.host b.here x (exchange.map fun q => (b.id, q.1, q.2.retold w)) := by
  induction exchange generalizing s x with
  | nil => exact .nil x
  | cons q rest ih =>
    rw [List.forall_mem_cons] at hrefers
    cases hresponds with
    | cons budget hrun hrest =>
      obtain ⟨y, hrun', hlevel⟩ := h.performing hlevel hrefers.1 hrun
      exact .cons budget hrun' (ih hlevel hrefers.2 hrest)

/-- From engines that stand level, exactly the same can be heard. -/
theorem responds_iff {exchange : List (Tracer.Request × Tracer.Response)}
    (hrefers : ∀ q ∈ exchange, q.1.Refers E L) :
    Tracer.Responds a.host a.here s (exchange.map fun q => (a.id, q)) ↔
      Tracer.Responds b.host b.here x (exchange.map fun q => (b.id, q.1, q.2.retold w)) := by
  refine ⟨h.responds hlevel hrefers, fun hresponds => ?_⟩
  have hrefers' : ∀ q ∈ exchange.map fun q => (q.1, q.2.retold w), q.1.Refers E L := by
    intro q hq
    obtain ⟨p, hp, rfl⟩ := List.mem_map.1 hq
    exact hrefers p hp
  -- Told back, the responses are what they were.
  have hback := h.symm.responds hlevel.symm hrefers'
  simp only [List.map_map, Function.comp_def, Tracer.Response.retold_symm] at hback
  exact hback hresponds

end Twins

end

/-! ## New engines -/

/-- An engine has been created, and since then only been given entries. -/
inductive Seat.Outfitted {σ : Type} (a : Seat σ) (s : σ) : σ → Prop where
  | created (budget : Nat) {r : Tracer.Response} {t : σ}
      (hrun : Tracer.Request.create.perform budget a.host a.here a.id s = some (r, t)) :
      Outfitted a s t
  | given (budget : Nat) {request : Tracer.Request} {r : Tracer.Response} {t u : σ}
      (hbefore : Outfitted a s t) (hrebinds : request.Rebinds)
      (hrun : request.perform budget a.host a.here a.id t = some (r, u)) : Outfitted a s u

section

variable {σ : Type} {a : Seat σ} {s t : σ}

theorem Seat.outfitted_create (a : Seat σ) (s : σ) :
    ∃ t, a.Outfitted s t ∧ (a.here.get t).slots[a.id]? = some {} := by
  refine ⟨_, .created 0 (Tracer.perform_create_iff.2 ⟨rfl, rfl⟩), ?_⟩
  rw [a.here.get_set, Tracer.create, Tracer.slots_setSlot, if_pos rfl]

theorem Seat.Outfitted.bind (h : a.Outfitted s t) {slot : TracerSlot}
    (hslot : (a.here.get t).slots[a.id]? = some slot) (name : String) (binding : Binding)
    (haccepts : binding.entry.accepts binding.shape = true) :
    ∃ u, a.Outfitted s u ∧ (a.here.get u).slots[a.id]? =
      some { slot with bindings := slot.bindings.insert name binding } := by
  have hbind : (a.here.get t).bind? a.id name binding = some _ :=
    Tracer.bind?_eq_some_iff.2 ⟨haccepts, slot, hslot, rfl⟩
  have hrebinds : (Tracer.Request.bind name binding).Rebinds := trivial
  refine ⟨_, h.given 0 hrebinds (Tracer.perform_bind_iff.2 (.inl ⟨_, hbind, rfl, rfl⟩)), ?_⟩
  rw [a.here.get_set, Tracer.slots_setSlot, if_pos rfl]

theorem Seat.Outfitted.listen (h : a.Outfitted s t) {slot : TracerSlot}
    (hslot : (a.here.get t).slots[a.id]? = some slot) (entry : LogEntry) :
    ∃ u, a.Outfitted s u ∧ (a.here.get u).slots[a.id]? =
      some { slot with listener := some entry } := by
  have hlisten : (a.here.get t).listen? a.id entry = some _ :=
    Tracer.listen?_eq_some_iff.2 ⟨slot, hslot, rfl⟩
  have hrebinds : (Tracer.Request.listen entry).Rebinds := trivial
  refine ⟨_, h.given 0 hrebinds (Tracer.perform_listen_iff.2 (.inl ⟨_, hlisten, rfl, rfl⟩)), ?_⟩
  rw [a.here.get_set, Tracer.slots_setSlot, if_pos rfl]

end

/-- It has nothing but the entries. -/
theorem Seat.Outfitted.blank {σ : Type} {a : Seat σ} {s t : σ} (h : a.Outfitted s t)
    (hs : a.among s) :
    a.among t ∧ (a.here.get t).config = (a.here.get s).config ∧
      ∃ bindings listener, (a.here.get t).slots[a.id]? = some { bindings, listener } := by
  have hwritten {u : σ} {bindings : Bindings} {listener : Option LogEntry} (hu : a.among u)
      (hconfig : (a.here.get u).config = (a.here.get s).config) :
      let u' := a.here.set ((a.here.get u).setSlot a.id { bindings, listener }) u
      a.among u' ∧ (a.here.get u').config = (a.here.get s).config ∧
        ∃ bindings listener, (a.here.get u').slots[a.id]? = some { bindings, listener } := by
    intro u'
    have hget : a.here.get u' = _ := a.here.get_set _ _
    rw [hget, Tracer.slots_setSlot, if_pos rfl]
    exact ⟨a.written _ _ hu, hconfig, bindings, listener, rfl⟩
  induction h with
  | created budget hrun =>
    obtain ⟨-, rfl⟩ := Tracer.perform_create_iff.1 hrun
    exact hwritten hs rfl
  | @given budget request _ _ _ _ hrebinds hrun ih =>
    obtain ⟨ht, hconfig, bindings, listener, hslot⟩ := ih
    cases request with
    | bind =>
      rcases Tracer.perform_bind_iff.1 hrun with ⟨_, hbind, -, rfl⟩ | ⟨-, -, rfl⟩
      · obtain ⟨-, _, hslot', rfl⟩ := Tracer.bind?_eq_some_iff.1 hbind
        cases hslot.symm.trans hslot'
        exact hwritten ht hconfig
      · exact ⟨ht, hconfig, bindings, listener, hslot⟩
    | listen =>
      rcases Tracer.perform_listen_iff.1 hrun with ⟨_, hlisten, -, rfl⟩ | ⟨-, -, rfl⟩
      · obtain ⟨_, hslot', rfl⟩ := Tracer.listen?_eq_some_iff.1 hlisten
        cases hslot.symm.trans hslot'
        exact hwritten ht hconfig
      · exact ⟨ht, hconfig, bindings, listener, hslot⟩
    | create | install | compute | snapshot | patch => cases hrebinds

end EngineHost
