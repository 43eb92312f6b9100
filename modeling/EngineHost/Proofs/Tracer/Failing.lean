import EngineHost.Proofs.Tracer.Coupling
import EngineHost.Proofs.Tracer.Requests
/-
Requests that fail.  With entries that are functions of the call, no request
made later can tell whether one that failed was made.  The slots can differ in
one way only: a patch that does not fit has captured an image where there was
none before, and it is the image that would be captured later.
-/
namespace EngineHost

section

variable {σ : Type} (here : Place σ Tracer) (P : σ → Prop)

/-- In the worlds that `P` tells of, the action always comes to this result, or
it never comes to any.  It stays in such worlds and leaves all engines alone. -/
def Detached {α : Type} (a : Turn σ α) (r? : Option α) : Prop :=
  ∀ s, P s → (a s).map Prod.fst = r? ∧ ∀ r t, a s = some (r, t) → P t ∧ here.get t = here.get s

/-- The entries that a slot refers to are functions of the call. -/
structure TracerSlot.Detached (host : Host σ) (id : EngineId) (slot : TracerSlot) : Prop where
  entries : ∀ (name : String) b, slot.bindings[name]? = some b → ∀ call,
    ∃ r?, EngineHost.Detached here P (host.enter b.entry id name call) r?
  listener : ∀ entry, slot.listener = some entry → ∀ item,
    ∃ r?, EngineHost.Detached here P (host.deliver entry id item) r?

/-- All engines have such entries. -/
def Tracer.Detached (host : Host σ) (t : Tracer) : Prop :=
  ∀ id (slot : TracerSlot), t.slots[id]? = some slot → slot.Detached here P host id

end

/-! ## Runs beside engines that rest -/

section

variable {σ τ : Type} {here : Place σ Tracer} {P : σ → Prop} {here' : Place τ Tracer}
  {P' : τ → Prop}

/-- The engines of two worlds are as they were. -/
def Resting (here : Place σ Tracer) (P : σ → Prop) (here' : Place τ Tracer) (P' : τ → Prop)
    (t t' : Tracer) (s : σ) (x : τ) : Prop :=
  (P s ∧ here.get s = t) ∧ P' x ∧ here'.get x = t'

theorem Detached.coupled {α : Type} {a : Turn σ α} {b : Turn τ α} {r? : Option α}
    (h : Detached here P a r?) (h' : Detached here' P' b r?) {t t' : Tracer} :
    CoupledIn (Resting here P here' P' t t') a b := by
  intro s x hrest r u hrun
  obtain ⟨⟨hs, hs'⟩, hx, hx'⟩ := hrest
  obtain ⟨hresult, hkept⟩ := h s hs
  obtain ⟨hresult', hkept'⟩ := h' x hx
  rw [← hresult, hrun, Option.map_some] at hresult'
  obtain ⟨⟨r', y⟩, hy, hr⟩ := Option.map_eq_some_iff.1 hresult'
  have hy : b x = some (r, y) := by rw [hy, show r' = r from hr]
  obtain ⟨hu, hu'⟩ := hkept r u hrun
  obtain ⟨hPy, hy'⟩ := hkept' _ y hy
  exact ⟨y, hy, ⟨hu, hu'.trans hs'⟩, hPy, hy'.trans hx'⟩

theorem TracerSlot.Detached.hostsAlike {host : Host σ} {id : EngineId} {slot : TracerSlot}
    (h : slot.Detached here P host id) {t t' : Tracer} :
    HostsAlike (Resting here P here P t t') id id slot host host where
  enter name b hb args := by
    obtain ⟨r?, hentry⟩ := h.entries name b hb (marshal id b.entry.path args)
    exact hentry.coupled hentry
  deliver entry hentry item := by
    obtain ⟨r?, hlistener⟩ := h.listener entry hentry item
    exact hlistener.coupled hlistener

end

section

variable {σ : Type} {budget budget' : Nat} {host : Host σ} {config : TracerConfig} {plan : Plan}
  {s t t' : σ}

/-- A fresh instance has one memory, whatever the budget. -/
theorem initialMemory_unique {r r' : Except EngineError ByteArray}
    (h : (initialMemory budget host config plan).run s = some (r, t))
    (h' : (initialMemory budget' host config plan).run s = some (r', t')) : r = r' := by
  have h := initialMemory_mono (Nat.le_max_left budget budget') h
  have h' := initialMemory_mono (Nat.le_max_right budget budget') h'
  cases h.symm.trans h'
  rfl

end

/-! ## Engines that differ in a captured image -/

section

variable {σ : Type} (here : Place σ Tracer) (P : σ → Prop) (host : Host σ) (config : TracerConfig)
  (id : EngineId)

/-- What is captured for a slot, in any of the worlds in question. -/
def Captured (slot : TracerSlot) (base : ByteArray) : Prop :=
  ∃ m, slot.module = some m ∧ ∀ s, P s → ∃ budget t,
    (initialMemory budget host config (slot.planOf id m)).run s = some (.ok base, t)

/-- The same slot, but that one of the two may have its image captured already. -/
inductive SlotsAlike : Option TracerSlot → Option TracerSlot → Prop where
  | missing : SlotsAlike none none
  | same (slot : TracerSlot) : SlotsAlike (some slot) (some slot)
  | captured {slot : TracerSlot} {base : ByteArray} (hnone : slot.image = none)
      (hbase : Captured P host config id slot base) :
      SlotsAlike (some slot) (some { slot with image := some base })
  | uncaptured {slot : TracerSlot} {base : ByteArray} (hnone : slot.image = none)
      (hbase : Captured P host config id slot base) :
      SlotsAlike (some { slot with image := some base }) (some slot)

end

section

variable {σ : Type} (here : Place σ Tracer) (P : σ → Prop) (host : Host σ)

/-- Two worlds whose engines answer alike, now and later. -/
structure Indistinct (s x : σ) : Prop where
  among : P s ∧ P x
  detached : (here.get s).Detached here P host
  config_eq : (here.get x).config = (here.get s).config
  slots : ∀ id, SlotsAlike P host (here.get s).config id (here.get s).slots[id]?
    (here.get x).slots[id]?

end

section

variable {σ : Type} {here : Place σ Tracer} {P : σ → Prop} {host : Host σ}
  {config : TracerConfig} {id : EngineId}

theorem SlotsAlike.symm {slot? slot?' : Option TracerSlot}
    (h : SlotsAlike P host config id slot? slot?') :
    SlotsAlike P host config id slot?' slot? := by
  cases h with
  | missing => exact .missing
  | same slot => exact .same slot
  | captured hnone hbase => exact .uncaptured hnone hbase
  | uncaptured hnone hbase => exact .captured hnone hbase

/-- Slots that are alike refer to the same entries. -/
theorem SlotsAlike.detached {slot slot' : TracerSlot}
    (h : SlotsAlike P host config id (some slot) (some slot'))
    (hdetached : slot.Detached here P host id) : slot'.Detached here P host id := by
  cases h with
  | same => exact hdetached
  | captured | uncaptured => exact ⟨hdetached.entries, hdetached.listener⟩

namespace Indistinct

variable {s x : σ}

theorem refl (hs : P s) (hdetached : (here.get s).Detached here P host) :
    Indistinct here P host s s where
  among := ⟨hs, hs⟩
  detached := hdetached
  config_eq := rfl
  slots id := by
    cases (here.get s).slots[id]? with
    | none => exact .missing
    | some slot => exact .same slot

theorem symm (h : Indistinct here P host s x) : Indistinct here P host x s where
  among := h.among.symm
  detached id slot hslot := by
    have halike := h.slots id
    rw [hslot] at halike
    cases hs : (here.get s).slots[id]? with
    | none =>
      rw [hs] at halike
      cases halike
    | some slot' =>
      rw [hs] at halike
      exact halike.detached (h.detached id slot' hs)
  config_eq := h.config_eq.symm
  slots id := by
    rw [h.config_eq]
    exact (h.slots id).symm

/-- Nothing has been done to the engines on either side. -/
theorem resting (h : Indistinct here P host s x) {t y : σ}
    (hrest : Resting here P here P (here.get s) (here.get x) t y) : Indistinct here P host t y where
  among := ⟨hrest.1.1, hrest.2.1⟩
  detached := hrest.1.2.symm ▸ h.detached
  config_eq := by
    rw [hrest.1.2, hrest.2.2]
    exact h.config_eq
  slots id := by
    rw [hrest.1.2, hrest.2.2]
    exact h.slots id

/-- The slots of one engine are replaced on both sides. -/
theorem replace (h : Indistinct here P host s x) {t y : σ} {slot slot' : TracerSlot}
    (hamong : P t ∧ P y) (ht : here.get t = (here.get s).setSlot id slot)
    (hy : here.get y = (here.get x).setSlot id slot')
    (halike : SlotsAlike P host (here.get s).config id (some slot) (some slot'))
    (hdetached : slot.Detached here P host id) : Indistinct here P host t y where
  among := hamong
  detached k other hother := by
    rw [ht, Tracer.slots_setSlot] at hother
    split at hother
    case isTrue hk =>
      cases hother
      exact hk ▸ hdetached
    case isFalse => exact h.detached k other hother
  config_eq := by
    rw [ht, hy]
    exact h.config_eq
  slots k := by
    rw [ht, hy, Tracer.slots_setSlot, Tracer.slots_setSlot]
    by_cases hk : id = k
    · subst hk
      rw [if_pos rfl, if_pos rfl]
      exact halike
    · rw [if_neg hk, if_neg hk]
      exact h.slots k

/-- The slot on the other side. -/
theorem slot_alike (h : Indistinct here P host s x) {slot : TracerSlot}
    (hslot : (here.get s).slots[id]? = some slot) :
    ∃ slot', (here.get x).slots[id]? = some slot' ∧
      SlotsAlike P host (here.get s).config id (some slot) (some slot') := by
  have halike := h.slots id
  rw [hslot] at halike
  cases hx : (here.get x).slots[id]? with
  | none =>
    rw [hx] at halike
    cases halike
  | some slot' =>
    rw [hx] at halike
    exact ⟨slot', rfl, halike⟩

theorem slot_missing (h : Indistinct here P host s x)
    (hslot : (here.get s).slots[id]? = none) : (here.get x).slots[id]? = none := by
  have halike := h.slots id
  rw [hslot] at halike
  cases hx : (here.get x).slots[id]? with
  | none => rfl
  | some slot' =>
    rw [hx] at halike
    cases halike

/-- Both sides plan alike, since a plan has no image in it. -/
theorem plan_eq (h : Indistinct here P host s x) :
    (here.get x).plan id = (here.get s).plan id := by
  have halike := h.slots id
  unfold Tracer.plan Tracer.slot
  generalize (here.get s).slots[id]? = slot? at halike ⊢
  generalize (here.get x).slots[id]? = slot?' at halike ⊢
  cases halike <;> rfl

end Indistinct

end

/-! ## The operations on both sides -/

section

variable {σ : Type} {here : Place σ Tracer} {P : σ → Prop} {host : Host σ} {id : EngineId}
  {s x t : σ} {budget : Nat}

/-- A run beside resting engines, and the same run on the other side. -/
theorem TracerSlot.Detached.carryOut {slot : TracerSlot} {m : Guest.Module}
    {config : TracerConfig} (h : slot.Detached here P host id) (hs : P s) (hx : P x)
    {r : Except EngineError Execution}
    (hrun : (carryOut budget host config (slot.planOf id m)).run s = some (r, t)) :
    ∃ y, (EngineHost.carryOut budget host config (slot.planOf id m)).run x = some (r, y) ∧
      Resting here P here P (here.get s) (here.get x) t y :=
  carryOut_coupled h.hostsAlike budget s x ⟨⟨hs, rfl⟩, hx, rfl⟩ r t hrun

theorem TracerSlot.Detached.initialMemory {slot : TracerSlot} {m : Guest.Module}
    {config : TracerConfig} (h : slot.Detached here P host id) (hs : P s) (hx : P x)
    {r : Except EngineError ByteArray}
    (hrun : (initialMemory budget host config (slot.planOf id m)).run s = some (r, t)) :
    ∃ y, (EngineHost.initialMemory budget host config (slot.planOf id m)).run x = some (r, y) ∧
      Resting here P here P (here.get s) (here.get x) t y :=
  initialMemory_coupled h.hostsAlike budget s x ⟨⟨hs, rfl⟩, hx, rfl⟩ r t hrun

/-- What has been captured once is captured in all the worlds in question. -/
theorem captured_of_initialMemory {slot : TracerSlot} {m : Guest.Module} {config : TracerConfig}
    {base : ByteArray} (h : slot.Detached here P host id) (hmodule : slot.module = some m)
    (hs : P s)
    (hrun : (initialMemory budget host config (slot.planOf id m)).run s = some (.ok base, t)) :
    Captured P host config id slot base := by
  refine ⟨m, hmodule, fun x hx => ?_⟩
  obtain ⟨y, hy, -⟩ := h.initialMemory hs hx hrun
  exact ⟨budget, y, hy⟩

theorem Captured.eq {slot : TracerSlot} {m : Guest.Module} {config : TracerConfig}
    {base : ByteArray} (h : Captured P host config id slot base) (hmodule : slot.module = some m)
    (hs : P s) {r : Except EngineError ByteArray}
    (hrun : (initialMemory budget host config (slot.planOf id m)).run s = some (r, t)) :
    r = .ok base := by
  obtain ⟨m', hmodule', hall⟩ := h
  cases hmodule.symm.trans hmodule'
  obtain ⟨budget', t', hrun'⟩ := hall s hs
  exact initialMemory_unique hrun hrun'

/-- Capturing does not find the slot changed. -/
theorem Tracer.Capturing.of_detached {r : Except EngineError TracerSlot} (hs : P s)
    (hdetached : (here.get s).Detached here P host)
    (h : Tracer.Capturing budget host here id s r t) :
    (∃ e, r = .error e ∧ P t ∧ here.get t = here.get s) ∨
      ∃ slot, (here.get s).slots[id]? = some slot ∧
        ((slot.image.isSome ∧ r = .ok slot ∧ t = s) ∨
          ∃ base u, slot.image = none ∧
            Captured P host (here.get s).config id slot base ∧ P u ∧
            here.get u = here.get s ∧ r = .ok { slot with image := some base } ∧
            t = here.set ((here.get u).setSlot id { slot with image := some base }) u) := by
  cases h with
  | unknown | uninstalled => exact .inl ⟨_, rfl, hs, rfl⟩
  | present hslot himage => exact .inr ⟨_, hslot, .inl ⟨himage, rfl, rfl⟩⟩
  | failed hslot _ _ hrun =>
    obtain ⟨_, -, hrest⟩ := (hdetached id _ hslot).initialMemory hs hs hrun
    exact .inl ⟨_, rfl, hrest.1.1, hrest.1.2⟩
  | vanished hslot _ _ hrun hgone =>
    obtain ⟨_, -, hrest⟩ := (hdetached id _ hslot).initialMemory hs hs hrun
    rw [hrest.1.2, hslot] at hgone
    cases hgone
  | captured hslot himage hmodule hrun hafter =>
    obtain ⟨_, -, hrest⟩ := (hdetached id _ hslot).initialMemory hs hs hrun
    rw [hrest.1.2, hslot] at hafter
    cases hafter
    have hbase := captured_of_initialMemory (hdetached id _ hslot) hmodule hs hrun
    rw [himage]
    exact .inr ⟨_, hslot, .inr ⟨_, _, himage, hbase, hrest.1.1, hrest.1.2, rfl, rfl⟩⟩

theorem Tracer.Capturing.detached {slot : TracerSlot}
    (h : Tracer.Capturing budget host here id s (.ok slot) t) (hs : P s)
    (hdetached : (here.get s).Detached here P host) : slot.Detached here P host id := by
  rcases h.of_detached hs hdetached with
    ⟨_, ⟨⟩, _⟩ | ⟨_, hslot, ⟨_, ⟨⟩, _⟩ | ⟨_, _, _, _, _, _, ⟨⟩, _⟩⟩
  · exact hdetached id slot hslot
  · exact ⟨(hdetached id _ hslot).entries, (hdetached id _ hslot).listener⟩

/-- A slot without an image gets the one that is captured for it. -/
theorem Captured.capturing {slot : TracerSlot} {base : ByteArray}
    (h : Captured P host (here.get s).config id slot base) (hs : P s)
    (hdetached : slot.Detached here P host id) (hslot : (here.get s).slots[id]? = some slot)
    (himage : slot.image = none) :
    ∃ budget u, Tracer.Capturing budget host here id s (.ok { slot with image := some base })
        (here.set ((here.get u).setSlot id { slot with image := some base }) u) ∧
      P u ∧ here.get u = here.get s := by
  obtain ⟨m, hmodule, hall⟩ := h
  obtain ⟨budget, u, hrun⟩ := hall s hs
  obtain ⟨_, -, hrest⟩ := hdetached.initialMemory hs hs hrun
  have hafter : (here.get u).slots[id]? = some slot := by rw [hrest.1.2, hslot]
  have hcapture := Tracer.Capturing.captured hslot himage hmodule hrun hafter
  rw [himage] at hcapture
  exact ⟨budget, u, hcapture, hrest.1⟩

namespace Indistinct

variable (hwritten : ∀ s tracer, P s → P (here.set tracer s)) (h : Indistinct here P host s x)

include hwritten h

/-- Each side gets the same slot written. -/
theorem write {slot : TracerSlot} (hdetached : slot.Detached here P host id) :
    Indistinct here P host (here.set ((here.get s).setSlot id slot) s)
      (here.set ((here.get x).setSlot id slot) x) :=
  h.replace ⟨hwritten _ _ h.among.1, hwritten _ _ h.among.2⟩ (here.get_set _ _) (here.get_set _ _)
    (.same slot) hdetached

/-- One side captures the image that the other side has. -/
theorem write_captured {slot : TracerSlot} {base : ByteArray} {u : σ} (hu : P u)
    (hrest : here.get u = here.get s) (hslot : (here.get s).slots[id]? = some slot)
    (hslot' : (here.get x).slots[id]? = some { slot with image := some base }) :
    Indistinct here P host
      (here.set ((here.get u).setSlot id { slot with image := some base }) u) x := by
  have hdetached := h.detached id slot hslot
  refine h.replace ⟨hwritten _ _ hu, h.among.2⟩ ?_ (Tracer.setSlot_self hslot').symm (.same _)
    ⟨hdetached.entries, hdetached.listener⟩
  rw [here.get_set, hrest]

/-- What is captured on one side is captured or there on the other. -/
theorem capturing {r : Except EngineError TracerSlot}
    (hcapture : Tracer.Capturing budget host here id s r t) :
    ∃ budget' y, Tracer.Capturing budget' host here id x r y ∧ Indistinct here P host t y := by
  have hs := h.among.1
  cases hcapture with
  | unknown hnone => exact ⟨0, x, .unknown (h.slot_missing hnone), h⟩
  | present hslot himage =>
    obtain ⟨slot', hslot', halike⟩ := h.slot_alike hslot
    cases halike with
    | same => exact ⟨0, x, .present hslot' himage, h⟩
    | captured hnone => simp [hnone] at himage
    | uncaptured hnone hbase =>
      rw [← h.config_eq] at hbase
      have hdetached := h.symm.detached id slot' hslot'
      obtain ⟨budget', u, hcapture, hu, hrest⟩ :=
        hbase.capturing h.among.2 hdetached hslot' hnone
      exact ⟨budget', _, hcapture, (h.symm.write_captured hwritten hu hrest hslot' hslot).symm⟩
  | uninstalled hslot himage hmodule =>
    obtain ⟨slot', hslot', halike⟩ := h.slot_alike hslot
    cases halike with
    | same => exact ⟨0, x, .uninstalled hslot' himage hmodule, h⟩
    | captured _ hbase =>
      obtain ⟨m, hm, -⟩ := hbase
      cases hmodule.symm.trans hm
    | uncaptured => cases himage
  | failed hslot himage hmodule hrun =>
    obtain ⟨slot', hslot', halike⟩ := h.slot_alike hslot
    cases halike with
    | same =>
      obtain ⟨y, hy, hrest⟩ := (h.detached id _ hslot).initialMemory hs h.among.2 hrun
      rw [← h.config_eq] at hy
      exact ⟨budget, y, .failed hslot' himage hmodule hy, h.resting hrest⟩
    | captured _ hbase => cases hbase.eq hmodule hs hrun
    | uncaptured => cases himage
  | vanished hslot _ _ hrun hgone =>
    obtain ⟨_, -, hrest⟩ := (h.detached id _ hslot).initialMemory hs hs hrun
    rw [hrest.1.2, hslot] at hgone
    cases hgone
  | captured hslot himage hmodule hrun hafter =>
    have hdetached := h.detached id _ hslot
    obtain ⟨y, hy, hrest⟩ := hdetached.initialMemory hs h.among.2 hrun
    rw [hrest.1.2, hslot] at hafter
    cases hafter
    obtain ⟨slot', hslot', halike⟩ := h.slot_alike hslot
    cases halike with
    | same =>
      have hafter' : (here.get y).slots[id]? = _ := hrest.2.2 ▸ hslot'
      rw [← h.config_eq] at hy
      exact ⟨budget, _, .captured hslot' himage hmodule hy hafter',
        (h.resting hrest).write hwritten ⟨hdetached.entries, hdetached.listener⟩⟩
    | captured _ hbase =>
      cases hbase.eq hmodule hs hrun
      rw [himage]
      exact ⟨0, x, .present hslot' rfl, h.write_captured hwritten hrest.1.1 hrest.1.2 hslot hslot'⟩
    | uncaptured => cases himage

theorem computing {r : Except EngineError ByteArray}
    (hcompute : Tracer.Computing budget host here id s r t) :
    ∃ y, Tracer.Computing budget host here id x r y ∧ Indistinct here P host t y := by
  have hs := h.among.1
  have hcarried {plan : Plan} {r : Except EngineError Execution} {u : σ}
      (hplan : (here.get s).plan id = .ok plan)
      (hrun : (carryOut budget host (here.get s).config plan).run s = some (r, u)) :
      (here.get x).plan id = .ok plan ∧ ∃ y,
        (carryOut budget host (here.get x).config plan).run x = some (r, y) ∧
          Indistinct here P host u y := by
    obtain ⟨slot, m, hslot, -, rfl⟩ := Tracer.plan_eq_ok_iff.1 hplan
    obtain ⟨y, hy, hrest⟩ := (h.detached id slot hslot).carryOut hs h.among.2 hrun
    rw [h.config_eq, h.plan_eq]
    exact ⟨hplan, y, hy, h.resting hrest⟩
  cases hcompute with
  | unplanned hplan => exact ⟨x, .unplanned (h.plan_eq ▸ hplan), h⟩
  | failed hplan hrun =>
    obtain ⟨hplan, y, hy, h⟩ := hcarried hplan hrun
    exact ⟨y, .failed hplan hy, h⟩
  | unkept hplan hrun =>
    obtain ⟨hplan, y, hy, h⟩ := hcarried hplan hrun
    exact ⟨y, .unkept hplan hy, h⟩
  | vanished hplan hrun hgone =>
    obtain ⟨hplan, y, hy, h⟩ := hcarried hplan hrun
    exact ⟨y, .vanished hplan hy (h.slot_missing hgone), h⟩
  | kept hplan hrun hslot =>
    obtain ⟨hplan, y, hy, h⟩ := hcarried hplan hrun
    obtain ⟨slot', hslot', halike⟩ := h.slot_alike hslot
    have hdetached := h.detached id _ hslot
    refine ⟨_, .kept hplan hy hslot', ?_⟩
    cases halike <;> exact h.write hwritten ⟨hdetached.entries, hdetached.listener⟩

theorem patching {offset length : UInt32} {data : ByteArray} {r : Except EngineError Unit}
    (hpatch : Tracer.Patching budget host here id offset length data s r t) :
    ∃ budget' y, Tracer.Patching budget' host here id offset length data x r y ∧
      Indistinct here P host t y := by
  cases hpatch with
  | mismatched hmake => exact ⟨0, x, .mismatched hmake, h⟩
  | uncaptured hmake hcapture =>
    obtain ⟨budget', y, hcapture, h⟩ := h.capturing hwritten hcapture
    exact ⟨budget', y, .uncaptured hmake hcapture, h⟩
  | outside hmake hcapture happly =>
    obtain ⟨budget', y, hcapture, h⟩ := h.capturing hwritten hcapture
    exact ⟨budget', y, .outside hmake hcapture happly, h⟩
  | accepted hmake hcapture happly =>
    obtain ⟨budget', y, hcapture', h'⟩ := h.capturing hwritten hcapture
    have hdetached := hcapture.detached h.among.1 h.detached
    exact ⟨budget', _, .accepted hmake hcapture' happly,
      h'.write hwritten ⟨hdetached.entries, hdetached.listener⟩⟩

theorem installing {binary : Guest.Binary} {tracer : Tracer}
    (hinstall : (here.get s).install id binary = .ok tracer) :
    ∃ tracer', (here.get x).install id binary = .ok tracer' ∧
      Indistinct here P host (here.set tracer s) (here.set tracer' x) := by
  obtain ⟨slot, m, hslot, hcompile, happrove, rfl⟩ := Tracer.install_eq_ok_iff.1 hinstall
  obtain ⟨slot', hslot', halike⟩ := h.slot_alike hslot
  have hdetached := h.detached id slot hslot
  rw [← h.config_eq] at happrove
  refine ⟨_, Tracer.install_eq_ok_iff.2 ⟨slot', m, hslot', hcompile, happrove, rfl⟩, ?_⟩
  cases halike <;> exact h.write hwritten ⟨hdetached.entries, hdetached.listener⟩

omit hwritten in
theorem install_error {binary : Guest.Binary} {e : EngineError}
    (hinstall : (here.get s).install id binary = .error e) :
    (here.get x).install id binary = .error e := by
  rw [Tracer.install_eq_error_iff] at hinstall ⊢
  rw [h.config_eq]
  rcases hinstall with ⟨hnone, he⟩ | ⟨hsome, he⟩
  · exact .inl ⟨h.slot_missing hnone, he⟩
  · obtain ⟨slot, hslot⟩ := Option.isSome_iff_exists.1 hsome
    obtain ⟨slot', hslot', -⟩ := h.slot_alike hslot
    exact .inr ⟨by rw [hslot', Option.isSome_some], he⟩

/-- Whatever is requested, apart from other entries, both sides respond alike. -/
theorem performing {request : Tracer.Request} (hkeeps : ¬ request.Rebinds) {r : Tracer.Response}
    (hrun : request.perform budget host here id s = some (r, t)) :
    ∃ budget' y, request.perform budget' host here id x = some (r, y) ∧
      Indistinct here P host t y := by
  cases request with
  | create =>
    obtain ⟨rfl, rfl⟩ := Tracer.perform_create_iff.1 hrun
    refine ⟨0, _, Tracer.perform_create_iff.2 ⟨rfl, rfl⟩, h.write hwritten ⟨?_, nofun⟩⟩
    intro name b hb
    rw [Std.ExtTreeMap.getElem?_empty] at hb
    cases hb
  | install binary =>
    rcases Tracer.perform_install_iff.1 hrun with
      ⟨tracer, hinstall, rfl, rfl⟩ | ⟨e, hinstall, rfl, rfl⟩
    · obtain ⟨tracer', hinstall', h⟩ := h.installing hwritten hinstall
      exact ⟨0, _, Tracer.perform_install_iff.2 (.inl ⟨tracer', hinstall', rfl, rfl⟩), h⟩
    · exact ⟨0, x, Tracer.perform_install_iff.2 (.inr ⟨e, h.install_error hinstall, rfl, rfl⟩), h⟩
  | compute =>
    obtain ⟨result, hcompute, rfl⟩ := Tracer.perform_compute_iff.1 hrun
    obtain ⟨y, hcompute, h⟩ := h.computing hwritten hcompute
    exact ⟨budget, y, Tracer.perform_compute_iff.2 ⟨result, hcompute, rfl⟩, h⟩
  | snapshot =>
    obtain ⟨result, hcapture, rfl⟩ := Tracer.perform_snapshot_iff.1 hrun
    obtain ⟨budget', y, hcapture, h⟩ := h.capturing hwritten hcapture
    exact ⟨budget', y, Tracer.perform_snapshot_iff.2 ⟨result, hcapture, rfl⟩, h⟩
  | patch offset length data =>
    obtain ⟨result, hpatch, rfl⟩ := Tracer.perform_patch_iff.1 hrun
    obtain ⟨budget', y, hpatch, h⟩ := h.patching hwritten hpatch
    exact ⟨budget', y, Tracer.perform_patch_iff.2 ⟨result, hpatch, rfl⟩, h⟩
  | bind | listen => exact absurd trivial hkeeps

omit h in
theorem responds (h : Indistinct here P host s x)
    {later : List (EngineId × Tracer.Request × Tracer.Response)}
    (hkeep : ∀ q ∈ later, ¬ q.2.1.Rebinds) (hs : Tracer.Responds host here s later) :
    Tracer.Responds host here x later := by
  induction hs generalizing x with
  | nil => exact .nil x
  | cons budget hrun _ ih =>
    rw [List.forall_mem_cons] at hkeep
    obtain ⟨budget', y, hrun', h⟩ := h.performing hwritten hkeep.1 hrun
    exact .cons budget' hrun' (ih h hkeep.2)

end Indistinct

/-! ## After a failure -/

/-- What a failed request leaves of the engines: everything, or everything but
an image captured for a patch that did not fit, which a snapshot would have
shown. -/
inductive Left (host : Host σ) (here : Place σ Tracer) (id : EngineId) (request : Tracer.Request)
    (s t : σ) : Prop where
  | untouched (h : here.get t = here.get s)
  | captured {offset length : UInt32} {data base : ByteArray} {slot : TracerSlot} {budget : Nat}
      {u : σ} (hpatch : request = .patch offset length data)
      (hslot : (here.get s).slots[id]? = some slot) (hnone : slot.image = none)
      (hshown : (Tracer.snapshot budget host here id).run s = some (.ok base, u))
      (h : here.get t = (here.get s).setSlot id { slot with image := some base })

/-- A failure leaves engines that cannot be told from those before it. -/
theorem indistinct_of_failed (hwritten : ∀ s tracer, P s → P (here.set tracer s)) (hs : P s)
    (hdetached : (here.get s).Detached here P host) {request : Tracer.Request}
    {r : Tracer.Response} (hrun : request.perform budget host here id s = some (r, t))
    (hfailed : r.Failed) : Indistinct here P host s t ∧ Left host here id request s t := by
  have hself := Indistinct.refl hs hdetached
  have hrested {u : σ} (hu : P u) (h : here.get u = here.get s) :
      Indistinct here P host s u ∧ Left host here id request s u :=
    ⟨hself.resting ⟨⟨hs, rfl⟩, hu, h⟩, .untouched h⟩
  cases request with
  | create =>
    obtain ⟨rfl, -⟩ := Tracer.perform_create_iff.1 hrun
    cases hfailed
  | install binary =>
    rcases Tracer.perform_install_iff.1 hrun with ⟨_, _, rfl, _⟩ | ⟨_, _, _, rfl⟩
    · cases hfailed
    · exact hrested hs rfl
  | compute =>
    obtain ⟨result, hcompute, rfl⟩ := Tracer.perform_compute_iff.1 hrun
    cases hcompute with
    | unplanned => exact hrested hs rfl
    | unkept | kept => cases hfailed
    | failed hplan hrun =>
      obtain ⟨slot, m, hslot, -, rfl⟩ := Tracer.plan_eq_ok_iff.1 hplan
      obtain ⟨_, -, hrest⟩ := (hdetached id slot hslot).carryOut hs hs hrun
      exact hrested hrest.1.1 hrest.1.2
    | vanished hplan hrun hgone =>
      obtain ⟨slot, m, hslot, -, rfl⟩ := Tracer.plan_eq_ok_iff.1 hplan
      obtain ⟨_, -, hrest⟩ := (hdetached id slot hslot).carryOut hs hs hrun
      rw [hrest.1.2, hslot] at hgone
      cases hgone
  | snapshot =>
    obtain ⟨result, hcapture, rfl⟩ := Tracer.perform_snapshot_iff.1 hrun
    cases result with
    | ok => cases hfailed
    | error e =>
      rcases hcapture.of_detached hs hdetached with
        ⟨_, _, ht, h⟩ | ⟨_, _, ⟨_, ⟨⟩, _⟩ | ⟨_, _, _, _, _, _, ⟨⟩, _⟩⟩
      exact hrested ht h
  | patch offset length data =>
    obtain ⟨result, hpatch, rfl⟩ := Tracer.perform_patch_iff.1 hrun
    cases hpatch with
    | mismatched => exact hrested hs rfl
    | accepted => cases hfailed
    | uncaptured _ hcapture =>
      rcases hcapture.of_detached hs hdetached with
        ⟨_, _, ht, h⟩ | ⟨_, _, ⟨_, ⟨⟩, _⟩ | ⟨_, _, _, _, _, _, ⟨⟩, _⟩⟩
      exact hrested ht h
    | outside _ hcapture _ =>
      rcases hcapture.of_detached hs hdetached with
        ⟨_, ⟨⟩, _⟩ | ⟨slot, hslot, ⟨_, _, rfl⟩ | ⟨base, u, hnone, hbase, hu, hrest, hslot', rfl⟩⟩
      · exact hrested hs rfl
      · -- The image that there is now would have been captured later.
        have htracer : here.get (here.set ((here.get u).setSlot id
            { slot with image := some base }) u) =
              (here.get s).setSlot id { slot with image := some base } := by
          rw [here.get_set, hrest]
        have hshown := Tracer.snapshot_eq_some_iff.2 ⟨_, hcapture, rfl⟩
        cases hslot'
        refine ⟨?_, .captured rfl hslot hnone hshown htracer⟩
        exact hself.replace ⟨hs, hwritten _ _ hu⟩ (Tracer.setSlot_self hslot).symm htracer
          (.captured hnone hbase) (hdetached id slot hslot)
  | bind name binding =>
    rcases Tracer.perform_bind_iff.1 hrun with ⟨_, _, rfl, _⟩ | ⟨_, _, rfl⟩
    · cases hfailed
    · exact hrested hs rfl
  | listen entry =>
    rcases Tracer.perform_listen_iff.1 hrun with ⟨_, _, rfl, _⟩ | ⟨_, _, rfl⟩
    · cases hfailed
    · exact hrested hs rfl

end

end EngineHost
