import EngineHost.Proofs.Session.SlotChanges
/-
Ledgers: what the deeds at one engine come to.  A ledger knows which
installation the engine is at, the patches accepted since, which installation
and patches its image shows, and the strokes that have made the image.

The two can come apart.  An execution paints with what was there when it made
its plan, and its memory becomes the image whatever has happened meanwhile.
They agree exactly when nothing has.
-/
namespace EngineHost

/-! ## Entering deeds -/

/-- What a plan can be made of: an installation, with its number and its module,
and the patches accepted since. -/
structure Stamp where
  installation : Nat := 0
  module : Option Guest.Module := none
  patches : List Patch := []

namespace Stamp

def record (x : Stamp) (p : Patch) : Stamp := { x with patches := x.patches ++ [p] }

theorem record_inj {x y : Stamp} {p : Patch} : x.record p = y.record p ↔ x = y := by
  constructor
  · intro h
    obtain ⟨hinstallation, hmodule, hpatches⟩ := Stamp.mk.inj h
    obtain ⟨_, _, _⟩ := x
    obtain ⟨_, _, _⟩ := y
    cases hinstallation
    cases hmodule
    cases List.append_cancel_right hpatches
    rfl
  · intro heq
    subst heq
    rfl

def bare (x : Stamp) : Stamp := { x with patches := [] }

def replace (x : Stamp) (module : Option Guest.Module) : Stamp :=
  { installation := x.installation + 1, module }

end Stamp

structure Ledger where
  current : Stamp := {}
  /-- What the executions under way have planned with, the innermost first. -/
  plans : List Stamp := []
  /-- What the image shows, if there is an image. -/
  shown : Option Stamp := none
  /-- All that has been done to the memory in the image. -/
  strokes : List Stroke := []

namespace Ledger

def enter (l : Ledger) : Deed → Ledger
  | .created => { l with current := l.current.replace none, shown := none, strokes := [] }
  | .installed binary =>
    { l with current := l.current.replace binary.compile.toOption, shown := none, strokes := [] }
  | .recorded p =>
    { l with
      current := l.current.record p, shown := l.shown.map (·.record p),
      strokes := l.strokes ++ [.patch p] }
  | .planned => { l with plans := l.current :: l.plans }
  | .kept strokes => { l with plans := l.plans.tail, shown := l.plans.head?, strokes }
  | .captured strokes =>
    { l with plans := l.plans.tail, shown := l.plans.head?.map (·.bare), strokes }

def enterAll (l : Ledger) (deeds : List Deed) : Ledger := deeds.foldl enter l

/-- The ledger of an engine from its first deed on. -/
def ofDeeds (deeds : List Deed) : Ledger := ({} : Ledger).enterAll deeds

theorem enterAll_append {l : Ledger} {deeds deeds' : List Deed} :
    l.enterAll (deeds ++ deeds') = (l.enterAll deeds).enterAll deeds' := List.foldl_append

end Ledger

/-- Whether an engine is left alone while an execution of it is under way: no
module is installed and no patch accepted before its memory is stored. -/
structure Quiet where
  /-- For the executions under way, the innermost first. -/
  plans : List Bool := []
  /-- For the execution that the image comes from. -/
  image : Bool := true

namespace Quiet

def enter (q : Quiet) : Deed → Quiet
  | .created | .installed _ => { plans := q.plans.map fun _ => false, image := true }
  | .recorded _ => { q with plans := q.plans.map fun _ => false }
  | .planned => { q with plans := true :: q.plans }
  | .kept _ | .captured _ => { plans := q.plans.tail, image := q.plans.headD true }

def enterAll (q : Quiet) (deeds : List Deed) : Quiet := deeds.foldl enter q

theorem enterAll_append {q : Quiet} {deeds deeds' : List Deed} :
    q.enterAll (deeds ++ deeds') = (q.enterAll deeds).enterAll deeds' := List.foldl_append

end Quiet

/-- The image comes from an execution during which the engine was left alone, or
there is no image. -/
def Undisturbed (deeds : List Deed) : Prop := (({} : Quiet).enterAll deeds).image = true

/-! ## Plans and what comes after -/

/-- A plan was made at `x`, or an image shows `x`, and the engine is at `y` now. -/
structure Stamp.Before (x y : Stamp) (quiet : Bool) : Prop where
  le : x.installation ≤ y.installation
  grown : x.installation = y.installation → x.module = y.module ∧ x.patches.Sublist y.patches
  quiet_iff : quiet = true ↔ x = y

namespace Stamp.Before

variable {x y : Stamp} {quiet : Bool}

theorem refl (x : Stamp) : x.Before x true :=
  ⟨Nat.le_refl _, fun _ => ⟨rfl, List.Sublist.refl _⟩, ⟨fun _ => rfl, fun _ => rfl⟩⟩

theorem record (h : x.Before y quiet) (p : Patch) : x.Before (y.record p) false := by
  refine ⟨h.le, fun hsame => ?_, ⟨nofun, ?_⟩⟩
  · obtain ⟨hmodule, hpatches⟩ := h.grown hsame
    exact ⟨hmodule, hpatches.trans (List.sublist_append_left _ _)⟩
  · intro heq
    subst heq
    have hlength := (h.grown rfl).2.length_le
    rw [Stamp.record, List.length_append, List.length_singleton] at hlength
    omega

theorem replace (h : x.Before y quiet) (module : Option Guest.Module) :
    x.Before (y.replace module) false := by
  have hlt : x.installation < (y.replace module).installation := Nat.lt_succ_of_le h.le
  refine ⟨Nat.le_of_lt hlt, fun hsame => absurd hsame (Nat.ne_of_lt hlt), ⟨nofun, ?_⟩⟩
  intro heq
  subst heq
  exact absurd hlt (Nat.lt_irrefl _)

/-- A patch is put into the image too. -/
theorem record_both (h : x.Before y quiet) (p : Patch) : (x.record p).Before (y.record p) quiet := by
  refine ⟨h.le, fun hsame => ?_, h.quiet_iff.trans Stamp.record_inj.symm⟩
  obtain ⟨hmodule, hpatches⟩ := h.grown hsame
  exact ⟨hmodule, hpatches.append_right [p]⟩

/-- Where no patch has been accepted, a plan without its patches is the plan. -/
theorem bare (h : x.Before y quiet) (hnone : y.patches = []) : x.bare.Before y quiet := by
  have hempty : x.installation = y.installation → x.patches = [] := fun hsame =>
    List.sublist_nil.1 (hnone ▸ (h.grown hsame).2)
  refine ⟨h.le, fun hsame => ⟨(h.grown hsame).1, List.nil_sublist _⟩, h.quiet_iff.trans ?_⟩
  constructor
  · intro heq
    subst heq
    rw [Stamp.bare, ← hnone]
  · intro heq
    subst heq
    rw [Stamp.bare, ← hempty rfl]

/-- What was disturbed is behind by an installation or by a patch. -/
theorem behind (h : x.Before y false) :
    x.installation < y.installation ∨
      x.module = y.module ∧ x.patches.Sublist y.patches ∧ x.patches.length < y.patches.length := by
  rcases Nat.lt_or_eq_of_le h.le with hlt | hsame
  · exact .inl hlt
  obtain ⟨hmodule, hpatches⟩ := h.grown hsame
  refine .inr ⟨hmodule, hpatches, Nat.lt_of_le_of_ne hpatches.length_le fun hlength => ?_⟩
  have heq : x = y := by
    obtain ⟨_, _, _⟩ := x
    obtain ⟨_, _, _⟩ := y
    cases hsame
    cases hmodule
    cases hpatches.eq_of_length hlength
    rfl
  cases h.quiet_iff.2 heq

end Stamp.Before

/-! ## The books of an engine -/

/-- A slot is as its ledger says. -/
structure TracerSlot.Booked (slot : TracerSlot) (config : TracerConfig) (l : Ledger) : Prop where
  module : slot.module = l.current.module
  patches : slot.patches = l.current.patches
  blank : slot.image = none → slot.patches = []
  shows : ∀ image, slot.image = some image → ∃ x m, l.shown = some x ∧ x.module = some m ∧
    Portrait config m l.strokes image ∧ patchesOf l.strokes = x.patches

/-- The ledger of an engine is right, and so is what is known of its quiet. -/
structure Books (config : TracerConfig) (slot : Option TracerSlot) (l : Ledger) (q : Quiet) :
    Prop where
  slot : ∀ x, slot = some x → x.Booked config l
  plans : List.Forall₂ (fun (x : Stamp) quiet => x.Before l.current quiet) l.plans q.plans
  image : ∀ x, l.shown = some x → x.Before l.current q.image

namespace Books

variable {config : TracerConfig} {before after : Option TracerSlot} {l : Ledger} {q : Quiet}

theorem empty : Books config none {} {} := ⟨nofun, .nil, nofun⟩

theorem disturbed {f : Stamp → Stamp} (h : Books config before l q)
    (hf : ∀ {x : Stamp} {quiet : Bool}, x.Before l.current quiet → x.Before (f l.current) false) :
    List.Forall₂ (fun (x : Stamp) quiet => x.Before (f l.current) quiet) l.plans
      (q.plans.map fun _ => false) := by
  rw [List.forall₂_map_right_iff]
  exact h.plans.imp fun _ _ hx => hf hx

/-- An engine is created anew, or a module is installed. -/
theorem clear (h : Books config before l q) (module : Option Guest.Module)
    (hafter : ∀ x, after = some x → x.module = module ∧ x.patches = [] ∧ x.image = none) :
    Books config after { l with current := l.current.replace module, shown := none, strokes := [] }
      { plans := q.plans.map fun _ => false, image := true } := by
  refine ⟨fun x hx => ?_,
    h.disturbed (f := (·.replace module)) fun hbefore => hbefore.replace module, nofun⟩
  obtain ⟨hmodule, hpatches, himage⟩ := hafter x hx
  refine ⟨hmodule, hpatches, fun _ => hpatches, fun image hsome => ?_⟩
  rw [himage] at hsome
  cases hsome

theorem record {slot : TracerSlot} (h : Books config (some slot) l q) {p : Patch}
    {image patched : ByteArray} (himage : slot.image = some image)
    (hpatch : p.applyTo image = .ok patched) :
    Books config (some { slot with image := some patched, patches := slot.patches ++ [p] })
      (l.enter (.recorded p)) (q.enter (.recorded p)) := by
  have hslot := h.slot slot rfl
  obtain ⟨x, m, hshown, hmodule, hportrait, hpatches⟩ := hslot.shows image himage
  refine ⟨?_, h.disturbed (f := (·.record p)) fun hbefore => hbefore.record p, ?_⟩
  · intro _ heq
    cases heq
    refine ⟨hslot.module, congrArg (· ++ [p]) hslot.patches, nofun, ?_⟩
    intro _ heq
    cases heq
    refine ⟨x.record p, m, ?_, hmodule, hportrait.record hpatch, ?_⟩
    · show l.shown.map _ = _
      rw [hshown, Option.map_some]
    · show patchesOf (l.strokes ++ [.patch p]) = x.patches ++ [p]
      rw [patchesOf_append, hpatches]
      rfl
  · intro y hy
    obtain ⟨z, hz, rfl⟩ := Option.map_eq_some_iff.1 hy
    exact (h.image z hz).record_both p

/-- An execution makes its plan. -/
theorem plan {slot : TracerSlot} (h : Books config (some slot) l q) :
    Books config (some slot) (l.enter .planned) (q.enter .planned) := by
  refine ⟨?_, .cons (.refl _) h.plans, h.image⟩
  intro _ heq
  cases heq
  have hslot := h.slot slot rfl
  exact ⟨hslot.module, hslot.patches, hslot.blank, hslot.shows⟩

section

variable {slot : TracerSlot} {x : Stamp} {rest : List Stamp} {m : Guest.Module}
  {strokes : List Stroke} {memory : ByteArray}

/-- A run of the plan has ended, and its memory is stored. -/
theorem keep (h : Books config (some slot) l q) (hplans : l.plans = x :: rest)
    (hmodule : x.module = some m) (hportrait : Portrait config m strokes memory)
    (hpatches : patchesOf strokes = x.patches) :
    Books config (some { slot with image := some memory }) (l.enter (.kept strokes))
      (q.enter (.kept strokes)) := by
  have hslot := h.slot slot rfl
  have hall := h.plans
  rw [hplans] at hall
  obtain ⟨quiet, quiets, hx, hrest, hq⟩ := List.forall₂_cons_left_iff.1 hall
  refine ⟨?_, ?_, ?_⟩
  · intro _ heq
    cases heq
    refine ⟨hslot.module, hslot.patches, nofun, ?_⟩
    intro _ heq
    cases heq
    exact ⟨x, m, by rw [Ledger.enter, hplans, List.head?_cons], hmodule, hportrait, hpatches⟩
  · rw [Ledger.enter, Quiet.enter, hplans, hq]
    exact hrest
  · intro y hy
    rw [Ledger.enter, hplans] at hy
    cases hy
    rw [Quiet.enter, hq]
    exact hx

/-- The memory of a fresh instance is stored where there is no image yet. -/
theorem capture (h : Books config (some slot) l q) (hplans : l.plans = x :: rest)
    (hmodule : x.module = some m) (hnone : slot.image = none)
    (hportrait : Portrait config m strokes memory) (hpatches : patchesOf strokes = []) :
    Books config (some { slot with image := some memory }) (l.enter (.captured strokes))
      (q.enter (.captured strokes)) := by
  have hslot := h.slot slot rfl
  have hall := h.plans
  rw [hplans] at hall
  obtain ⟨quiet, quiets, hx, hrest, hq⟩ := List.forall₂_cons_left_iff.1 hall
  refine ⟨?_, ?_, ?_⟩
  · intro _ heq
    cases heq
    refine ⟨hslot.module, hslot.patches, nofun, ?_⟩
    intro _ heq
    cases heq
    exact ⟨x.bare, m, by rw [Ledger.enter, hplans, List.head?_cons, Option.map_some], hmodule,
      hportrait, hpatches⟩
  · rw [Ledger.enter, Quiet.enter, hplans, hq]
    exact hrest
  · intro y hy
    rw [Ledger.enter, hplans] at hy
    cases hy
    rw [Quiet.enter, hq]
    exact hx.bare (hslot.patches.symm.trans (hslot.blank hnone))

end

end Books

/-! ## Along a course -/

section

variable {d : Discipline} {s t : Session} {js : Journal} {site : Site} {config : TracerConfig}
  {l : Ledger} {q : Quiet}

theorem Session.configAt?_of_tracerAt? {index : Nat} {tracer : Tracer}
    (h : s.tracerAt? index = some tracer) : s.configAt? index = some tracer.config := by
  have htracer : ((foreignAt index).get s).tracer? = some tracer := h
  rw [configAt?, Foreign.config?, htracer, Option.map_some]

/-- Where there is no slot, nothing is accepted and nothing is stored. -/
theorem Books.absent {deeds : List Deed} (hclears : ∀ deed ∈ deeds, deed.Clears)
    (hbooks : Books config none l q) :
    Books config none (l.enterAll deeds) (q.enterAll deeds) ∧
      (l.enterAll deeds).plans = l.plans := by
  induction deeds generalizing l q with
  | nil => exact ⟨hbooks, rfl⟩
  | cons deed deeds ih =>
    rw [List.forall_mem_cons] at hclears
    cases deed with
    | created => exact ih hclears.2 (hbooks.clear none nofun)
    | installed binary => exact ih hclears.2 (hbooks.clear binary.compile.toOption nofun)
    | recorded | planned | kept | captured => exact hclears.1.elim

/-- Changes leave the plans alone. -/
theorem SlotChange.books {deeds : List Deed} {before after : Option TracerSlot}
    (h : SlotChange d s t site deeds before after) (hbooks : Books config before l q) :
    Books config after (l.enterAll deeds) (q.enterAll deeds) ∧
      (l.enterAll deeds).plans = l.plans := by
  cases h with
  | absent deeds _ hclears => exact hbooks.absent hclears
  | unchanged slot => exact ⟨hbooks, rfl⟩
  | created before =>
    refine ⟨hbooks.clear none ?_, rfl⟩
    intro _ heq
    cases heq
    exact ⟨rfl, rfl, rfl⟩
  | @installed _ slot binary m _ hcompile =>
    refine ⟨hbooks.clear binary.compile.toOption ?_, rfl⟩
    intro _ heq
    cases heq
    exact ⟨by rw [hcompile]; rfl, rfl, rfl⟩
  | bound slot | listened slot =>
    have hslot := hbooks.slot slot rfl
    refine ⟨⟨?_, hbooks.plans, hbooks.image⟩, rfl⟩
    intro _ heq
    cases heq
    exact ⟨hslot.module, hslot.patches, hslot.blank, hslot.shows⟩
  | recorded slot himage hpatch => exact ⟨hbooks.record himage hpatch, rfl⟩

/-- The memory of the innermost plan is stored. -/
theorem Stored.books {u : Session} {plan : Plan} {deed : Deed} {x : Stamp} {rest : List Stamp}
    (h : Stored config plan site s t deed u) (hbooks : Books config (t.slotAt? site) l q)
    (hplans : l.plans = x :: rest) (hmodule : x.module = some plan.module)
    (hpatches : x.patches = plan.patches) :
    Books config (u.slotAt? site) (l.enter deed) (q.enter deed) ∧ (l.enter deed).plans = rest := by
  cases h with
  | kept slot memory hslot hended =>
    rw [hslot] at hbooks
    rw [Session.slotAt?_setSlotAt, if_pos rfl]
    obtain ⟨hportrait, hpatches'⟩ := hended.portrait
    exact ⟨hbooks.keep hplans hmodule hportrait (hpatches'.trans hpatches.symm),
      congrArg List.tail hplans⟩
  | captured slot memory hslot hnone hbegun =>
    rw [hslot] at hbooks
    rw [Session.slotAt?_setSlotAt, if_pos rfl]
    obtain ⟨hportrait, hnone'⟩ := hbegun.portrait
    exact ⟨hbooks.capture hplans hmodule hnone hportrait hnone', congrArg List.tail hplans⟩

theorem deedsAt_execution {js rest : Journal} {k : Site} {deed : Deed} :
    deedsAt site ((k, .planned) :: js ++ (k, deed) :: rest) =
      deedsAt site [(k, .planned)] ++ deedsAt site js ++ deedsAt site [(k, deed)] ++
        deedsAt site rest := by
  rw [← deedsAt_append, ← deedsAt_append, ← deedsAt_append]
  simp

/-- Along a course the books stay right, and the plans under way before it are
under way after it. -/
theorem Course.books (h : Course d s js t) (hconfig : s.configAt? site.foreign = some config)
    (hbooks : Books config (s.slotAt? site) l q) :
    Books config (t.slotAt? site) (l.enterAll (deedsAt site js)) (q.enterAll (deedsAt site js)) ∧
      (l.enterAll (deedsAt site js)).plans = l.plans := by
  induction h generalizing l q with
  | nil => exact ⟨hbooks, rfl⟩
  | change hchange _ ih =>
    have hsame := (hchange.configAt? site.foreign).trans hconfig
    obtain ⟨hmiddle, hplans⟩ := (hchange.slot site).books hbooks
    obtain ⟨hend, hplans'⟩ := ih hsame hmiddle
    rw [deedsAt_append, Ledger.enterAll_append, Quiet.enterAll_append]
    exact ⟨hend, hplans'.trans hplans⟩
  | @execution s t u v js rest k tracer slot m deed htracer hslot hmodule hwithin hstored hrest
      ihwithin ihrest =>
    have hu : u.configAt? site.foreign = some config := by
      rw [hstored.configAt?, hwithin.configAt?, hconfig]
    rw [deedsAt_execution]
    simp only [Ledger.enterAll_append, Quiet.enterAll_append]
    by_cases hk : k = site
    case neg =>
      simp only [deedsAt_other hk]
      obtain ⟨hmiddle, hplans⟩ := ihwithin hconfig hbooks
      rw [← hstored.slotAt?_other hk] at hmiddle
      obtain ⟨hend, hplans'⟩ := ihrest hu hmiddle
      exact ⟨hend, hplans'.trans hplans⟩
    case pos =>
      subst hk
      simp only [deedsAt_self]
      cases (Session.configAt?_of_tracerAt? htracer).symm.trans hconfig
      have hbooked := hbooks.slot slot hslot
      have hplanned : Books tracer.config (s.slotAt? k) (l.enter .planned) (q.enter .planned) := by
        rw [hslot] at hbooks ⊢
        exact hbooks.plan
      obtain ⟨hmiddle, hplans⟩ := ihwithin hconfig hplanned
      -- Whatever happened meanwhile, the innermost plan is still the one made here.
      have hinstalled : l.current.module = some m := hbooked.module.symm.trans hmodule
      obtain ⟨hafter, hplans'⟩ := hstored.books hmiddle hplans hinstalled hbooked.patches.symm
      obtain ⟨hend, hplans''⟩ := ihrest hu hafter
      exact ⟨hend, hplans''.trans hplans'⟩

end

end EngineHost
