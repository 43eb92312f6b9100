import EngineHost.Proofs.Session.Course
/-
What a change does to one engine of a tracing foreign.  Every change is looked
at once here, and what holds of slots is read off the outcome.
-/
namespace EngineHost

/-! ## Foreign engines -/

namespace Foreign

variable {f g : Foreign} {id : EngineId}

theorem tracer?_create {ids ids' : IdSource} (h : f.create ids = (id, ids', g)) :
    g.tracer? = f.tracer?.map (·.create id) := by
  unfold create at h
  cases f with
  | scripted e | tracing t =>
    cases h
    rfl
  | pinned e kept =>
    cases kept <;> cases h <;> rfl

theorem tracer?_install {binary : Guest.Binary} (h : f.install id binary = .ok g) :
    (f.tracer? = none ∧ g.tracer? = none) ∨
      ∃ t t', f.tracer? = some t ∧ t.install id binary = .ok t' ∧ g.tracer? = some t' := by
  unfold install at h
  cases f with
  | scripted e | pinned e =>
    dsimp only at h
    cases hinstall : e.install id binary with
    | error =>
      rw [hinstall] at h
      cases h
    | ok e' =>
      rw [hinstall] at h
      cases h
      exact .inl ⟨rfl, rfl⟩
  | tracing t =>
    dsimp only at h
    cases hinstall : t.install id binary with
    | error =>
      rw [hinstall] at h
      cases h
    | ok t' =>
      rw [hinstall] at h
      cases h
      exact .inr ⟨t, t', rfl, hinstall, rfl⟩

theorem tracer?_bind {name : String} {binding : Binding} (h : f.bind? id name binding = some g) :
    (f.tracer? = none ∧ g.tracer? = none) ∨
      ∃ t t', f.tracer? = some t ∧ t.bind? id name binding = some t' ∧ g.tracer? = some t' := by
  unfold bind? at h
  cases f with
  | scripted e | pinned e =>
    obtain ⟨e', _, rfl⟩ := Option.map_eq_some_iff.1 h
    exact .inl ⟨rfl, rfl⟩
  | tracing t =>
    obtain ⟨t', ht', rfl⟩ := Option.map_eq_some_iff.1 h
    exact .inr ⟨t, t', rfl, ht', rfl⟩

theorem tracer?_listen {entry : LogEntry} (h : f.listen? id entry = some g) :
    (f.tracer? = none ∧ g.tracer? = none) ∨
      ∃ t t', f.tracer? = some t ∧ t.listen? id entry = some t' ∧ g.tracer? = some t' := by
  unfold listen? at h
  cases f with
  | scripted e | pinned e =>
    obtain ⟨e', _, rfl⟩ := Option.map_eq_some_iff.1 h
    exact .inl ⟨rfl, rfl⟩
  | tracing t =>
    obtain ⟨t', ht', rfl⟩ := Option.map_eq_some_iff.1 h
    exact .inr ⟨t, t', rfl, ht', rfl⟩

theorem tracer?_scripted {e e' : Scripted} (h : f.scripted? = some e) :
    f.tracer? = none ∧ (f.withScripted e').tracer? = none := by
  cases f with
  | scripted | pinned => exact ⟨rfl, rfl⟩
  | tracing => cases h

/-- The settings of a tracing engine. -/
def config? (f : Foreign) : Option TracerConfig := f.tracer?.map (·.config)

theorem config?_create {ids ids' : IdSource} (h : f.create ids = (id, ids', g)) :
    g.config? = f.config? := by
  rw [config?, tracer?_create h, Option.map_map]
  rfl

theorem config?_install {binary : Guest.Binary} (h : f.install id binary = .ok g) :
    g.config? = f.config? := by
  unfold config?
  rcases tracer?_install h with ⟨hf, hg⟩ | ⟨t, t', hf, hinstall, hg⟩
  · rw [hf, hg]
  · obtain ⟨slot, m, _, _, _, rfl⟩ := Tracer.install_eq_ok_iff.1 hinstall
    rw [hf, hg]
    rfl

theorem config?_bind {name : String} {binding : Binding} (h : f.bind? id name binding = some g) :
    g.config? = f.config? := by
  unfold config?
  rcases tracer?_bind h with ⟨hf, hg⟩ | ⟨t, t', hf, hbind, hg⟩
  · rw [hf, hg]
  · obtain ⟨_, slot, _, rfl⟩ := Tracer.bind?_eq_some_iff.1 hbind
    rw [hf, hg]
    rfl

theorem config?_listen {entry : LogEntry} (h : f.listen? id entry = some g) :
    g.config? = f.config? := by
  unfold config?
  rcases tracer?_listen h with ⟨hf, hg⟩ | ⟨t, t', hf, hlisten, hg⟩
  · rw [hf, hg]
  · obtain ⟨slot, _, rfl⟩ := Tracer.listen?_eq_some_iff.1 hlisten
    rw [hf, hg]
    rfl

theorem config?_scripted {e e' : Scripted} (h : f.scripted? = some e) :
    (f.withScripted e').config? = f.config? := by
  obtain ⟨hf, hg⟩ : f.tracer? = none ∧ (f.withScripted e').tracer? = none := tracer?_scripted h
  rw [config?, config?, hf, hg]

end Foreign

/-! ## One engine -/

/-- How a binding comes into the slot of an engine. -/
inductive Binds (d : Discipline) (s t : Session) (site : Site) (name : String) (b : Binding) :
    Prop where
  | directly (hop : d.op (.foreign site.foreign (.bind site.id name b)))
  | registered {handleName : String} {h : Handle} {f : HostFunction Callback}
      {record : EngineRecord Callback} (hhandle : s.handles[handleName]? = some h)
      (hid : h.id = site.id) (hb : b = { shape := f.shape, entry := .forShape f.shape })
      (hregister : (h.record s).register name f = .ok record)
      (hdirectory : t.directory = s.directory.adjust h.id fun _ => record)

/-- How a listener comes into the slot of an engine. -/
inductive Listens (d : Discipline) (s : Session) (site : Site) (entry : LogEntry) : Prop where
  | directly (hop : d.op (.foreign site.foreign (.listen site.id entry)))
  | subscribed {handleName : String} {h : Handle} (hhandle : s.handles[handleName]? = some h)
      (hid : h.id = site.id) (hentry : entry = .dispatcher)

/-- What clears an engine away, or would if it were there. -/
def Deed.Clears : Deed → Prop
  | .created | .installed _ => True
  | _ => False

/-- The deeds of a change at one engine, and its slot before and after. -/
inductive SlotChange (d : Discipline) (s t : Session) (site : Site) :
    List Deed → Option TracerSlot → Option TracerSlot → Prop where
  | absent (deeds : List Deed) (h : s.slotAt? site = none) (hclears : ∀ deed ∈ deeds, deed.Clears) :
      SlotChange d s t site deeds none none
  | unchanged (slot : TracerSlot) : SlotChange d s t site [] (some slot) (some slot)
  | created (before : Option TracerSlot) : SlotChange d s t site [.created] before (some {})
  | installed {tracer : Tracer} (slot : TracerSlot) {binary : Guest.Binary} {m : Guest.Module}
      (htracer : s.tracerAt? site.foreign = some tracer) (hcompile : binary.compile = .ok m)
      (happrove : approve tracer.config m = .ok ()) :
      SlotChange d s t site [.installed binary] (some slot)
        (some { slot with module := some m, patches := [], image := none })
  | bound (slot : TracerSlot) {name : String} {b : Binding} (hbinds : Binds d s t site name b) :
      SlotChange d s t site [] (some slot)
        (some { slot with bindings := slot.bindings.insert name b })
  | listened (slot : TracerSlot) {entry : LogEntry} (hlistens : Listens d s site entry) :
      SlotChange d s t site [] (some slot) (some { slot with listener := some entry })
  | recorded (slot : TracerSlot) {p : Patch} {image patched : ByteArray}
      (himage : slot.image = some image) (hpatch : p.applyTo image = .ok patched) :
      SlotChange d s t site [.recorded p] (some slot)
        (some { slot with image := some patched, patches := slot.patches ++ [p] })

/-- The deeds of a journal at one engine. -/
def deedsAt (site : Site) (js : Journal) : List Deed :=
  js.filterMap fun (k, deed) => if k = site then some deed else none

section

variable {d : Discipline} {s t : Session} {site : Site} {js js' : Journal}

theorem deedsAt_append : deedsAt site (js ++ js') = deedsAt site js ++ deedsAt site js' :=
  List.filterMap_append

theorem deedsAt_self {deed : Deed} : deedsAt site [(site, deed)] = [deed] := by
  simp [deedsAt]

theorem deedsAt_other {k : Site} {deed : Deed} (h : k ≠ site) : deedsAt site [(k, deed)] = [] := by
  simp [deedsAt, h]

theorem SlotChange.refl (h : t.slotAt? site = s.slotAt? site) :
    SlotChange d s t site [] (s.slotAt? site) (t.slotAt? site) := by
  rw [h]
  cases hslot : s.slotAt? site with
  | none => exact .absent [] hslot nofun
  | some slot => exact .unchanged slot

section

variable {u : Session} {index : Nat} (hu : ∀ k, u.tracerAt? k = s.tracerAt? k)

include hu

/-- A foreign engine without slots has none afterwards. -/
theorem SlotChange.of_none {g : Foreign} (hf : s.tracerAt? index = none) (hg : g.tracer? = none)
    {deeds : List Deed} (hclears : ∀ deed ∈ deeds, deed.Clears)
    (hdeeds : index ≠ site.foreign → deeds = []) :
    SlotChange d s (u.setForeign index g) site deeds (s.slotAt? site)
      ((u.setForeign index g).slotAt? site) := by
  by_cases hindex : index = site.foreign
  case pos =>
    have hbefore : s.slotAt? site = none := by rw [Session.slotAt?, ← hindex, hf, Option.bind_none]
    rw [Session.slotAt?_setForeign, if_pos hindex, hg, Option.bind_none, hbefore]
    exact .absent deeds hbefore hclears
  case neg =>
    rw [hdeeds hindex]
    refine .refl ?_
    rw [Session.slotAt?_setForeign, if_neg hindex, Session.slotAt?, hu, Session.slotAt?]

/-- Only the engine whose slot is set has changed. -/
theorem SlotChange.of_setSlot {id : EngineId} {tracer : Tracer} {after : TracerSlot} {g : Foreign}
    {deeds : List Deed} (hf : s.tracerAt? index = some tracer)
    (hg : g.tracer? = some (tracer.setSlot id after))
    (hat : SlotChange d s (u.setForeign index g) ⟨index, id⟩ deeds (tracer.slots[id]?)
      (some after)) :
    SlotChange d s (u.setForeign index g) site (if ⟨index, id⟩ = site then deeds else [])
      (s.slotAt? site) ((u.setForeign index g).slotAt? site) := by
  split
  case isTrue hsite =>
    subst hsite
    have hbefore : s.slotAt? ⟨index, id⟩ = tracer.slots[id]? := by
      rw [Session.slotAt?, hf, Option.bind_some]
    rw [Session.slotAt?_setForeign, if_pos rfl, hg, Option.bind_some, Tracer.slots_setSlot,
      if_pos rfl, hbefore]
    exact hat
  case isFalse hsite =>
    refine .refl ?_
    rw [Session.slotAt?_setForeign]
    split
    case isTrue hindex =>
      have hid : id ≠ site.id := fun hid => hsite (by rw [hindex, hid])
      rw [hg, Option.bind_some, Tracer.slots_setSlot, if_neg hid, Session.slotAt?, ← hindex, hf,
        Option.bind_some]
    case isFalse => rw [Session.slotAt?, hu, Session.slotAt?]

theorem SlotChange.of_setSlot_quietly {id : EngineId} {tracer : Tracer} {after : TracerSlot}
    {g : Foreign} (hf : s.tracerAt? index = some tracer)
    (hg : g.tracer? = some (tracer.setSlot id after))
    (hat : SlotChange d s (u.setForeign index g) ⟨index, id⟩ [] (tracer.slots[id]?) (some after)) :
    SlotChange d s (u.setForeign index g) site [] (s.slotAt? site)
      ((u.setForeign index g).slotAt? site) := by
  have hchange : SlotChange d s (u.setForeign index g) site
      (if ⟨index, id⟩ = site then [] else []) _ _ := .of_setSlot hu hf hg hat
  rwa [ite_self] at hchange

end

theorem deedsAt_one {k : Site} {deed : Deed} :
    deedsAt site [(k, deed)] = if k = site then [deed] else [] := by
  by_cases h : k = site <;> simp [deedsAt, h]

theorem Deed.clears_ite {deed : Deed} {k : Site} (h : deed.Clears) :
    ∀ other ∈ (if k = site then [deed] else []), other.Clears := by
  split
  · exact fun _ hother => List.mem_singleton.1 hother ▸ h
  · nofun

theorem Change.slot (h : Change d s js t) (site : Site) :
    SlotChange d s t site (deedsAt site js) (s.slotAt? site) (t.slotAt? site) := by
  cases h with
  | noted | handled | desk | named | filed | unsubscribed => exact .refl rfl
  | created index id ids f hcreate =>
    have hf := Foreign.tracer?_create hcreate
    rw [deedsAt_one]
    cases htracer : s.tracerAt? index with
    | none =>
      rw [show ((foreignAt index).get s).tracer? = none from htracer] at hf
      refine .of_none (fun _ => by rfl) htracer hf (Deed.clears_ite trivial) fun hindex => if_neg ?_
      intro heq
      subst heq
      exact hindex rfl
    | some tracer =>
      rw [show ((foreignAt index).get s).tracer? = some tracer from htracer] at hf
      exact .of_setSlot (fun _ => by rfl) htracer hf (.created _)
  | registered name functionName handle f record g hkept hhandle hregister hbind =>
    rcases Foreign.tracer?_bind hbind with ⟨hf, hg⟩ | ⟨tracer, tracer', hf, hbinds, hg⟩
    · exact .of_none (fun _ => by rfl) hf hg nofun fun _ => rfl
    · obtain ⟨_, slot, hslot, rfl⟩ := Tracer.bind?_eq_some_iff.1 hbinds
      refine .of_setSlot_quietly (fun _ => by rfl) hf hg ?_
      rw [hslot]
      exact .bound slot (.registered hhandle rfl rfl hregister rfl)
  | subscribed name handle subscriber g hkept hhandle hlisten =>
    rcases Foreign.tracer?_listen hlisten with ⟨hf, hg⟩ | ⟨tracer, tracer', hf, hlistens, hg⟩
    · exact .of_none (fun _ => by rfl) hf hg nofun fun _ => rfl
    · obtain ⟨slot, hslot, rfl⟩ := Tracer.listen?_eq_some_iff.1 hlistens
      refine .of_setSlot_quietly (fun _ => by rfl) hf hg ?_
      rw [hslot]
      exact .listened slot (.subscribed hhandle rfl rfl)
  | installed index id binary g hinstall =>
    rw [deedsAt_one]
    rcases Foreign.tracer?_install hinstall with ⟨hf, hg⟩ | ⟨tracer, tracer', hf, hinstalls, hg⟩
    · refine .of_none (fun _ => by rfl) hf hg (Deed.clears_ite trivial) fun hindex => if_neg ?_
      intro heq
      subst heq
      exact hindex rfl
    · obtain ⟨slot, m, hslot, hcompile, happrove, rfl⟩ := Tracer.install_eq_ok_iff.1 hinstalls
      refine .of_setSlot (fun _ => by rfl) hf hg ?_
      rw [hslot]
      exact .installed slot hf hcompile happrove
  | bound index id name binding g hop hbind =>
    rcases Foreign.tracer?_bind hbind with ⟨hf, hg⟩ | ⟨tracer, tracer', hf, hbinds, hg⟩
    · exact .of_none (fun _ => by rfl) hf hg nofun fun _ => rfl
    · obtain ⟨_, slot, hslot, rfl⟩ := Tracer.bind?_eq_some_iff.1 hbinds
      refine .of_setSlot_quietly (fun _ => by rfl) hf hg ?_
      rw [hslot]
      exact .bound slot (.directly hop)
  | listened index id entry g hop hlisten =>
    rcases Foreign.tracer?_listen hlisten with ⟨hf, hg⟩ | ⟨tracer, tracer', hf, hlistens, hg⟩
    · exact .of_none (fun _ => by rfl) hf hg nofun fun _ => rfl
    · obtain ⟨slot, hslot, rfl⟩ := Tracer.listen?_eq_some_iff.1 hlistens
      refine .of_setSlot_quietly (fun _ => by rfl) hf hg ?_
      rw [hslot]
      exact .listened slot (.directly hop)
  | scripted index e id f hscripted hf =>
    obtain ⟨hf, hg⟩ := Foreign.tracer?_scripted hscripted
    exact .of_none (fun _ => by rfl) hf hg nofun fun _ => rfl
  | recorded k slot p image patched hslot himage hpatch =>
    by_cases hk : k = site
    case pos =>
      subst hk
      rw [Session.slotAt?_setSlotAt, if_pos rfl, hslot, deedsAt_self]
      exact .recorded slot himage hpatch
    case neg =>
      rw [deedsAt_other hk]
      exact .refl (by rw [Session.slotAt?_setSlotAt, if_neg hk])

/-! ## What never changes -/

theorem SlotChange.isSome {deeds : List Deed} {before after : Option TracerSlot}
    (h : SlotChange d s t site deeds before after) (hbefore : before.isSome) : after.isSome := by
  cases h with
  | absent => cases hbefore
  | unchanged | created | installed | bound | listened | recorded => rfl

/-- A slot never goes away. -/
theorem Course.slot_isSome (h : Course d s js t) (hs : (s.slotAt? site).isSome) :
    (t.slotAt? site).isSome := by
  refine h.preserves (P := fun s => (s.slotAt? site).isSome) ?_ ?_ hs
  case refine_1 => exact fun s js t hchange hs => (hchange.slot site).isSome hs
  case refine_2 =>
    intro s k slot memory hslot hs
    rw [Session.slotAt?_setSlotAt]
    split
    case isTrue => rfl
    case isFalse => exact hs

/-- The settings of the tracing engine with this number. -/
def Session.configAt? (s : Session) (index : Nat) : Option TracerConfig :=
  ((foreignAt index).get s).config?

theorem Session.configAt?_setForeign {index k : Nat} {g : Foreign}
    (hg : g.config? = s.configAt? index) :
    (s.setForeign index g).configAt? k = s.configAt? k := by
  rw [configAt?, foreign_get_setForeign]
  split
  case isTrue hk => rw [hg, hk]
  case isFalse => rfl

theorem Session.configAt?_setSlotAt {k : Nat} {slot : TracerSlot} (h : (s.slotAt? site).isSome) :
    (s.setSlotAt site slot).configAt? k = s.configAt? k := by
  obtain ⟨before, hbefore⟩ := Option.isSome_iff_exists.1 h
  refine configAt?_setForeign ?_
  rw [configAt?, tracerAt?_eq_some_iff.1 (tracerAt?_of_slotAt? hbefore)]
  rfl

/-- A tracing engine keeps its settings. -/
theorem Change.configAt? (h : Change d s js t) (index : Nat) :
    t.configAt? index = s.configAt? index := by
  cases h with
  | noted | handled | desk | named | filed | unsubscribed => rfl
  | created _ _ _ _ hcreate => exact Session.configAt?_setForeign (Foreign.config?_create hcreate)
  | registered _ _ _ _ _ _ _ _ _ hbind | bound _ _ _ _ _ _ hbind =>
    exact Session.configAt?_setForeign (Foreign.config?_bind hbind)
  | subscribed _ _ _ _ _ _ hlisten | listened _ _ _ _ _ hlisten =>
    exact Session.configAt?_setForeign (Foreign.config?_listen hlisten)
  | installed _ _ _ _ hinstall =>
    exact Session.configAt?_setForeign (Foreign.config?_install hinstall)
  | scripted _ _ _ _ hscripted =>
    exact Session.configAt?_setForeign (Foreign.config?_scripted hscripted)
  | recorded _ _ _ _ _ hslot =>
    exact Session.configAt?_setSlotAt (by rw [hslot, Option.isSome_some])

namespace Stored

variable {config : TracerConfig} {plan : Plan} {k : Site} {deed : Deed} {u : Session}

theorem configAt? (h : Stored config plan k s t deed u) (index : Nat) :
    u.configAt? index = t.configAt? index := by
  cases h with
  | kept slot memory hslot | captured slot memory hslot =>
    exact Session.configAt?_setSlotAt (by rw [hslot, Option.isSome_some])

theorem slotAt?_other (h : Stored config plan k s t deed u) (hk : k ≠ site) :
    u.slotAt? site = t.slotAt? site := by
  cases h with
  | kept | captured => rw [Session.slotAt?_setSlotAt, if_neg hk]

end Stored

theorem Course.configAt? (h : Course d s js t) (index : Nat) :
    t.configAt? index = s.configAt? index := by
  refine h.preserves (P := fun u => u.configAt? index = s.configAt? index) ?_ ?_ rfl
  case refine_1 => exact fun s js t hchange hs => (hchange.configAt? index).trans hs
  case refine_2 =>
    intro s k slot memory hslot hs
    rw [Session.configAt?_setSlotAt (by rw [hslot, Option.isSome_some]), hs]

end

end EngineHost
