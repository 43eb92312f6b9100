import EngineHost.Proofs.Session.Discipline
import EngineHost.Proofs.Tracer.Painting
import EngineHost.Proofs.Tracer.Slots
import EngineHost.Session.Perform
/-
Courses: what any action does to a session, as a chain of changes.  A change is
one thing done at once, with nothing of the host's running in between.  An
execution of a guest is no change.  It is bracketed: the plan is made, then the
host does what it likes, the engine included, and then the memory that came out
is stored.

Every change says what it did to the engines of tracing foreigns, so a course
leaves a journal of deeds.  An execution that stores nothing leaves no deeds of
its own.
-/
namespace EngineHost

/-- An engine, as the foreign engine it lives in and its identity there. -/
structure Site where
  foreign : Nat
  id : EngineId
  deriving DecidableEq

/-! ## Looking at a session -/

namespace Session

def tracerAt? (s : Session) (index : Nat) : Option Tracer := ((foreignAt index).get s).tracer?

def slotAt? (s : Session) (site : Site) : Option TracerSlot :=
  (s.tracerAt? site.foreign).bind fun t => t.slots[site.id]?

/-- Put a slot in the place of the one that is there. -/
def setSlotAt (s : Session) (site : Site) (slot : TracerSlot) : Session :=
  let here := (foreignAt site.foreign).tracer
  here.set ((here.get s).setSlot site.id slot) s

variable {s : Session} {index k : Nat} {site : Site} {slot : TracerSlot}

/-- What the host takes the tracing engine at a number to be. -/
theorem tracer_get : (foreignAt index).tracer.get s = (s.tracerAt? index).getD {} := rfl

theorem tracerAt?_eq_some_iff {t : Tracer} :
    s.tracerAt? index = some t ↔ (foreignAt index).get s = .tracing t := by
  unfold tracerAt?
  cases (foreignAt index).get s <;> simp [Foreign.tracer?]

theorem foreign_get_setForeign {f : Foreign} :
    (foreignAt k).get (s.setForeign index f) = if index = k then f else (foreignAt k).get s := by
  show (s.foreigns.insert index f).getD k default = _
  simp only [Std.ExtTreeMap.getD_insert, Std.LawfulEqCmp.compare_eq_iff_eq]
  rfl

theorem tracerAt?_setForeign {f : Foreign} :
    (s.setForeign index f).tracerAt? k = if index = k then f.tracer? else s.tracerAt? k := by
  simp only [tracerAt?, foreign_get_setForeign]
  split <;> rfl

theorem slotAt?_setForeign {f : Foreign} :
    (s.setForeign index f).slotAt? site =
      if index = site.foreign then f.tracer?.bind fun t => t.slots[site.id]? else s.slotAt? site := by
  simp only [slotAt?, tracerAt?_setForeign]
  split <;> rfl

/-- A slot that the host finds is the slot of the session. -/
theorem slotAt?_eq_some_iff :
    s.slotAt? site = some slot ↔
      ((foreignAt site.foreign).tracer.get s).slots[site.id]? = some slot := by
  rw [tracer_get, slotAt?]
  cases s.tracerAt? site.foreign with
  | none =>
    show none = some slot ↔ (∅ : EngineTable TracerSlot)[site.id]? = some slot
    rw [Std.ExtTreeMap.getElem?_empty]
  | some t => rfl

/-- A tracing engine with a slot is there. -/
theorem tracerAt?_of_slotAt? (h : s.slotAt? site = some slot) :
    s.tracerAt? site.foreign = some ((foreignAt site.foreign).tracer.get s) := by
  obtain ⟨t, ht, _⟩ := Option.bind_eq_some_iff.1 h
  rw [tracer_get, ht, Option.getD_some]

theorem slotAt?_setSlotAt {other : Site} :
    (s.setSlotAt site slot).slotAt? other = if site = other then some slot else s.slotAt? other := by
  show (s.setForeign site.foreign _).slotAt? other = _
  rw [slotAt?_setForeign]
  obtain ⟨index, id⟩ := site
  obtain ⟨index', id'⟩ := other
  by_cases hindex : index = index'
  case neg => simp [hindex]
  case pos =>
    subst hindex
    show (if index = index then
      (((foreignAt index).tracer.get s).setSlot id slot).slots[id']? else _) = _
    rw [if_pos rfl, Tracer.slots_setSlot]
    by_cases hid : id = id'
    case pos => simp [hid]
    case neg =>
      rw [if_neg hid, if_neg (by simpa using hid), slotAt?, tracer_get]
      cases s.tracerAt? index with
      | none => exact Std.ExtTreeMap.getElem?_empty
      | some t => rfl

/-- Putting back what a slot holds already. -/
theorem setSlotAt_self (h : s.slotAt? site = some slot) : s.setSlotAt site slot = s := by
  have htracer := tracerAt?_of_slotAt? h
  have hforeign := tracerAt?_eq_some_iff.1 htracer
  show s.setForeign site.foreign (.tracing _) = s
  rw [Tracer.setSlot_self (slotAt?_eq_some_iff.1 h), ← hforeign]
  have hthere : s.foreigns[site.foreign]? = some ((foreignAt site.foreign).get s) := by
    change s.foreigns.getD site.foreign default = _ at hforeign
    show _ = some (s.foreigns.getD site.foreign default)
    rw [Std.ExtTreeMap.getD_eq_getD_getElem?] at hforeign ⊢
    cases hf : s.foreigns[site.foreign]? with
    | none =>
      rw [hf] at hforeign
      cases hforeign
    | some f => rfl
  have hforeigns : s.foreigns.insert site.foreign ((foreignAt site.foreign).get s) =
      s.foreigns := by
    apply Std.ExtTreeMap.ext_getElem?
    intro k
    simp only [Std.ExtTreeMap.getElem?_insert, Std.LawfulEqCmp.compare_eq_iff_eq]
    split
    case isTrue hk => rw [← hk, hthere]
    case isFalse => rfl
  cases s
  exact congrArg (Session.mk _ · _ _ _ _ _) hforeigns

end Session

/-! ## Changes -/

/-- What is done to an engine of a tracing foreign. -/
inductive Deed where
  | created
  | installed (binary : Guest.Binary)
  | recorded (patch : Patch)
  /-- An execution whose memory will be stored has made its plan. -/
  | planned
  /-- The memory that a run ended with, after these strokes, has become the image. -/
  | kept (strokes : List Stroke)
  /-- The memory of a fresh instance, after these strokes, has become the image. -/
  | captured (strokes : List Stroke)

abbrev Journal := List (Site × Deed)

section

variable (d : Discipline)

inductive Change (s : Session) : Journal → Session → Prop where
  /-- An event is added, or the events are taken out. -/
  | noted (events : List Event) : Change s [] { s with events }
  | handled (handler : Option (BindingFault → Callback))
      (hkept : ∀ f, handler = some f → ∀ cause, d.callback (f cause)) :
      Change s [] { s with handler }
  | desk (desk : Desk) (hkept : desk.Kept d) : Change s [] { s with desk }
  | named (name : String) (h : Handle)
      (hfiled : (s.directory.lookup h.id).isSome ∨ ∃ other : String, s.handles[other]? = some h) :
      Change s [] { s with handles := s.handles.insert name h }
  | created (index : Nat) (id : EngineId) (ids : IdSource) (f : Foreign)
      (hcreate : ((foreignAt index).get s).create s.ids = (id, ids, f)) :
      Change s [(⟨index, id⟩, .created)] ({ s with ids }.setForeign index f)
  | filed (id : EngineId) (directory : Directory Callback)
      (hinsert : s.directory.insert? { id } = some directory) : Change s [] { s with directory }
  | registered (name functionName : String) (h : Handle)
      (function : HostFunction Callback) (record : EngineRecord Callback) (f : Foreign)
      (hkept : ∀ c, function.Gives c → d.callback c) (hhandle : s.handles[name]? = some h)
      (hregister : (h.record s).register functionName function = .ok record)
      (hbind : ((foreignAt h.foreign).get s).bind? h.id functionName
        { shape := function.shape, entry := .forShape function.shape } = some f) :
      Change s [] ({ s with directory := s.directory.adjust h.id fun _ => record }.setForeign
        h.foreign f)
  | subscribed (name : String) (h : Handle) (subscriber : String → Callback)
      (f : Foreign) (hkept : ∀ item, d.callback (subscriber item))
      (hhandle : s.handles[name]? = some h)
      (hlisten : ((foreignAt h.foreign).get s).listen? h.id .dispatcher = some f) :
      Change s [] ({ s with
        directory := s.directory.adjust h.id ({ · with subscriber := some subscriber }) }.setForeign
          h.foreign f)
  | unsubscribed (id : EngineId) :
      Change s []
        { s with directory := s.directory.adjust id ({ · with subscriber := none }) }
  | installed (index : Nat) (id : EngineId) (binary : Guest.Binary) (f : Foreign)
      (hinstall : ((foreignAt index).get s).install id binary = .ok f) :
      Change s [(⟨index, id⟩, .installed binary)] (s.setForeign index f)
  | bound (index : Nat) (id : EngineId) (name : String) (binding : Binding)
      (f : Foreign) (hop : d.op (.foreign index (.bind id name binding)))
      (hbind : ((foreignAt index).get s).bind? id name binding = some f) :
      Change s [] (s.setForeign index f)
  | listened (index : Nat) (id : EngineId) (entry : LogEntry) (f : Foreign)
      (hop : d.op (.foreign index (.listen id entry)))
      (hlisten : ((foreignAt index).get s).listen? id entry = some f) :
      Change s [] (s.setForeign index f)
  /-- What only a scripted engine can do, its bindings and its listener apart. -/
  | scripted (index : Nat) (e : Scripted) (id : EngineId)
      (f : ScriptedSlot → ScriptedSlot)
      (hscripted : ((foreignAt index).get s).scripted? = some e)
      (hf : ∀ slot, (f slot).bindings = slot.bindings ∧ (f slot).listener = slot.listener) :
      Change s []
        (s.setForeign index (((foreignAt index).get s).withScripted (e.adjust id f)))
  | recorded (site : Site) (slot : TracerSlot) (p : Patch)
      (image patched : ByteArray) (hslot : s.slotAt? site = some slot)
      (himage : slot.image = some image) (hpatch : p.applyTo image = .ok patched) :
      Change s [(site, .recorded p)] (s.setSlotAt site
        { slot with image := some patched, patches := slot.patches ++ [p] })

end

/-! ## Courses -/

/-- The host's side of a session, within budgets. -/
def hostWithin (budget depth : Nat) : Host Session :=
  sessionHost (Program.play (performWithin budget depth) note)

/-- An execution has taken the session from `s` to `t`, and its memory is stored
into what the slot has become. -/
inductive Stored (config : TracerConfig) (plan : Plan) (site : Site) (s t : Session) :
    Deed → Session → Prop where
  | kept {budget depth : Nat} {strokes : List Stroke} (slot : TracerSlot) (memory : ByteArray)
      (hslot : t.slotAt? site = some slot)
      (hended : Ended (hostWithin budget depth) config plan s strokes memory t) :
      Stored config plan site s t (.kept strokes)
        (t.setSlotAt site { slot with image := some memory })
  | captured {budget depth : Nat} {strokes : List Stroke} (slot : TracerSlot)
      (memory : ByteArray) (hslot : t.slotAt? site = some slot) (hnone : slot.image = none)
      (hbegun : Begun (hostWithin budget depth) config plan s strokes memory t) :
      Stored config plan site s t (.captured strokes)
        (t.setSlotAt site { slot with image := some memory })

/-- A course from one session to another, and its journal. -/
inductive Course (d : Discipline) : Session → Journal → Session → Prop where
  | nil (s : Session) : Course d s [] s
  | change {s t u : Session} {js rest : Journal} (hchange : Change d s js t)
      (hrest : Course d t rest u) : Course d s (js ++ rest) u
  | execution {s t u v : Session} {js rest : Journal} {site : Site} {tracer : Tracer}
      {slot : TracerSlot} {m : Guest.Module} {deed : Deed}
      (htracer : s.tracerAt? site.foreign = some tracer) (hslot : s.slotAt? site = some slot)
      (hmodule : slot.module = some m) (hwithin : Course d s js t)
      (hstored : Stored tracer.config (slot.planOf site.id m) site s t deed u)
      (hrest : Course d u rest v) :
      Course d s ((site, .planned) :: js ++ (site, deed) :: rest) v

theorem Directory.Kept.record {d : Discipline} {s : Session} (h : s.directory.Kept d)
    (handle : Handle) : (handle.record s).Kept d := by
  unfold Handle.record
  cases hlookup : s.directory.lookup handle.id with
  | none => exact EngineRecord.kept_empty handle.id
  | some r => exact h handle.id r hlookup

namespace Course

variable {d : Discipline} {s t u : Session} {js js' : Journal}

theorem trans (h : Course d s js t) (h' : Course d t js' u) : Course d s (js ++ js') u := by
  induction h with
  | nil => exact h'
  | change hchange _ ih =>
    rw [List.append_assoc]
    exact .change hchange (ih h')
  | execution htracer hslot hmodule hwithin hstored _ _ ih =>
    rw [List.append_assoc]
    exact .execution htracer hslot hmodule hwithin hstored (ih h')

theorem one (h : Change d s js t) : Course d s js t := by
  have hcourse := Course.change h (.nil t)
  rwa [List.append_nil] at hcourse

/-- What every change and every storing of a memory keeps, a course keeps. -/
theorem preserves {P : Session → Prop} (h : Course d s js t)
    (hchange : ∀ s js t, Change d s js t → P s → P t)
    (hstored : ∀ s site slot memory, s.slotAt? site = some slot → P s →
      P (s.setSlotAt site { slot with image := some memory })) (hs : P s) : P t := by
  induction h with
  | nil => exact hs
  | change hc _ ih => exact ih (hchange _ _ _ hc hs)
  | execution _ _ _ _ hs' _ ihwithin ihrest =>
    have ht := ihwithin hs
    apply ihrest
    cases hs' with
    | kept slot memory hslot | captured slot memory hslot => exact hstored _ _ _ _ hslot ht

/-- The callbacks of a session stay disciplined. -/
theorem kept (h : Course d s js t) (hs : s.Kept d) : t.Kept d := by
  refine h.preserves (P := Session.Kept d) ?_ ?_ hs
  case refine_2 =>
    intro s site slot memory _ hs
    exact ⟨hs.directory, hs.handler, hs.desk⟩
  case refine_1 =>
    intro s js t hc hs
    cases hc with
    | handled handler hkept => exact ⟨hs.directory, hkept, hs.desk⟩
    | desk desk hkept => exact ⟨hs.directory, hs.handler, hkept⟩
    | filed id directory hinsert =>
      exact ⟨hs.directory.insert (EngineRecord.kept_empty id) hinsert, hs.handler, hs.desk⟩
    | registered name functionName handle function record f hkept _ hregister =>
      have hrecord := hs.directory.record handle
      exact ⟨hs.directory.adjust fun _ _ => hrecord.register hkept hregister, hs.handler, hs.desk⟩
    | subscribed name handle subscriber f hkept =>
      refine ⟨hs.directory.adjust fun r hr => hr.subscribe ?_, hs.handler, hs.desk⟩
      intro _ heq
      cases heq
      exact hkept
    | unsubscribed =>
      refine ⟨hs.directory.adjust fun r hr => hr.subscribe ?_, hs.handler, hs.desk⟩
      intro _ heq
      cases heq
    | noted | named | created | installed | bound | listened | scripted | recorded =>
      exact ⟨hs.directory, hs.handler, hs.desk⟩

end Course

end EngineHost
