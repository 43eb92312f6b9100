import EngineHost.Proofs.Session.Bridging
import EngineHost.Proofs.Session.Lines
/-
The two tables of an engine: what is bound in a foreign engine, and what is
registered in the host's record.  Here is what every change does to either one.
Foreign engines of all kinds look alike from here, so each of their operations
has one lemma.
-/
namespace EngineHost

/-! ## Foreign engines -/

namespace Foreign

/-- What is bound in an engine, if the foreign engine knows it. -/
def bindings? (f : Foreign) (id : EngineId) : Option Bindings :=
  match f with
  | .scripted e | .pinned e _ => (e.slots[id]?).map (·.bindings)
  | .tracing t => (t.slots[id]?).map (·.bindings)

/-- Whether an engine refuses imports.  Only a scripted one can. -/
def refuses (f : Foreign) (id : EngineId) : Bool :=
  match f with
  | .scripted e | .pinned e _ => (e.slots[id]?).any (·.refusing)
  | .tracing _ => false

/-- The engine is known and takes imports. -/
def Takes (f : Foreign) (id : EngineId) : Prop :=
  (f.bindings? id).isSome = true ∧ f.refuses id = false

instance (f : Foreign) (id : EngineId) : Decidable (f.Takes id) :=
  inferInstanceAs (Decidable (_ ∧ _))

variable {f g : Foreign} {id : EngineId}

theorem bindings?_eq (f : Foreign) (id : EngineId) :
    f.bindings? id = (f.lines? id).map (·.bindings) := by
  unfold bindings? lines?
  cases f <;> simp only [Option.map_map] <;> rfl

theorem bindings?_create {ids ids' : IdSource} (h : f.create ids = (id, ids', g)) :
    (∀ k, g.bindings? k = if id = k then some ∅ else f.bindings? k) ∨ g = f := by
  refine (lines?_create h).imp_left fun hlines k => ?_
  rw [bindings?_eq, hlines, bindings?_eq]
  split <;> rfl

theorem bindings?_install {binary : Guest.Binary} (h : f.install id binary = .ok g)
    (k : EngineId) : g.bindings? k = f.bindings? k := by
  rw [bindings?_eq, lines?_install h, bindings?_eq]

theorem bindings?_listen {entry : LogEntry} (h : f.listen? id entry = some g) (k : EngineId) :
    g.bindings? k = f.bindings? k := by
  obtain ⟨old, hold, hlines⟩ := lines?_listen h
  rw [bindings?_eq, hlines, bindings?_eq]
  split
  case isTrue hk => rw [← hk, hold, Option.map_some, Option.map_some]
  case isFalse => rfl

theorem bindings?_scripted {e : Scripted} {change : ScriptedSlot → ScriptedSlot}
    (he : f.scripted? = some e)
    (hsame : ∀ slot, (change slot).bindings = slot.bindings ∧ (change slot).listener = slot.listener)
    (k : EngineId) : (f.withScripted (e.adjust id change)).bindings? k = f.bindings? k := by
  rw [bindings?_eq, lines?_scripted he hsame, bindings?_eq]

theorem bindings?_bind {name : String} {b : Binding} (h : f.bind? id name b = some g) :
    ∃ old, f.bindings? id = some old ∧
      ∀ k, g.bindings? k = if id = k then some (old.insert name b) else f.bindings? k := by
  obtain ⟨old, hold, hlines⟩ := lines?_bind h
  refine ⟨old.bindings, by rw [bindings?_eq, hold, Option.map_some], fun k => ?_⟩
  rw [bindings?_eq, hlines, bindings?_eq]
  split <;> rfl

/-- An import is bound if its entry serves its shape and the engine takes
imports. -/
theorem bind?_isSome_iff {name : String} {b : Binding} :
    (f.bind? id name b).isSome = true ↔ b.entry.accepts b.shape = true ∧ f.Takes id := by
  unfold bind? Takes bindings? refuses
  cases f with
  | tracing t => cases hslot : t.slots[id]? <;> simp [Tracer.bind?, hslot]
  | scripted e | pinned e =>
    cases hslot : e.slots[id]? with
    | none => simp [Scripted.bind?, hslot]
    | some slot => cases hrefusing : slot.refusing <;> simp [Scripted.bind?, hslot, hrefusing]

end Foreign

/-! ## Sessions -/

namespace Session

/-- What is bound at a site. -/
def bindingsAt? (s : Session) (site : Site) : Option Bindings :=
  ((foreignAt site.foreign).get s).bindings? site.id

/-- What is registered for an engine.  Without a record it is nothing. -/
def functionsOf (s : Session) (id : EngineId) : Std.ExtTreeMap String (HostFunction Callback) :=
  ((s.directory.lookup id).map (·.functions)).getD ∅

variable {s : Session} {index : Nat} {site k : Site}

theorem bindingsAt?_eq (s : Session) (site : Site) :
    s.bindingsAt? site = (s.linesAt? site).map (·.bindings) :=
  Foreign.bindings?_eq _ _

theorem bindingsAt?_setForeign {f : Foreign} :
    (s.setForeign index f).bindingsAt? k =
      if index = k.foreign then f.bindings? k.id else s.bindingsAt? k := by
  simp only [bindingsAt?, foreign_get_setForeign]
  split <;> rfl

/-- A foreign engine in the place of one with the same bindings. -/
theorem bindingsAt?_setForeign_same {f : Foreign}
    (h : ∀ id, f.bindings? id = ((foreignAt index).get s).bindings? id) :
    (s.setForeign index f).bindingsAt? k = s.bindingsAt? k := by
  rw [bindingsAt?_setForeign]
  by_cases hk : index = k.foreign
  case neg => rw [if_neg hk]
  case pos => rw [if_pos hk, h, hk, bindingsAt?]

theorem bindingsAt?_setSlotAt {slot old : TracerSlot} (hold : s.slotAt? site = some old)
    (hsame : slot.lines = old.lines) : (s.setSlotAt site slot).bindingsAt? k = s.bindingsAt? k := by
  rw [bindingsAt?_eq, linesAt?_setSlotAt hold hsame, bindingsAt?_eq]

end Session

/-- The engines that a journal says were created. -/
def Journal.created (js : Journal) : List Site :=
  js.filterMap fun (site, deed) => match deed with
    | .created => some site
    | _ => none

theorem Journal.created_append (js js' : Journal) :
    Journal.created (js ++ js') = Journal.created js ++ Journal.created js' :=
  List.filterMap_append

/-- What a change does to the tables of all engines, by the engines it creates.
A registration through a handle is the only thing that touches either table, and
it touches both. -/
inductive TableChange (s t : Session) : List Site → Prop where
  | still (hbindings : ∀ k, t.bindingsAt? k = s.bindingsAt? k)
      (hfunctions : ∀ id, t.functionsOf id = s.functionsOf id) : TableChange s t []
  | created (site : Site) (hother : ∀ k, k ≠ site → t.bindingsAt? k = s.bindingsAt? k)
      (hsite : t.bindingsAt? site = some ∅ ∨ t.bindingsAt? site = s.bindingsAt? site)
      (hfunctions : ∀ id, t.functionsOf id = s.functionsOf id) : TableChange s t [site]
  | registered (site : Site) (name : String) (f : HostFunction Callback) (old : Bindings)
      (hold : s.bindingsAt? site = some old) (hfree : (s.functionsOf site.id)[name]? = none)
      (hbindings : ∀ k, t.bindingsAt? k =
        if site = k then some (old.insert name { shape := f.shape, entry := .forShape f.shape })
        else s.bindingsAt? k)
      (hfunctions : ∀ id, t.functionsOf id =
        if site.id = id then (s.functionsOf id).insert name f else s.functionsOf id) :
      TableChange s t []

/-- Operations that bind imports through handles only. -/
def Op.BindsByHandle : Op → Prop
  | .foreign _ (.bind _ _ _) => False
  | _ => True

/-- The discipline of such operations. -/
abbrev bindsByHandle : Discipline := .throughout Op.BindsByHandle

theorem not_bindsByHandle {index : Nat} {id : EngineId} {name : String} {b : Binding} :
    ¬ bindsByHandle.op (.foreign index (.bind id name b)) := by
  intro h
  obtain ⟨⟨⟩, _⟩ := h

section

variable {s t : Session} {js : Journal}

theorem Session.functionsOf_adjust {id : EngineId}
    {f : EngineRecord Callback → EngineRecord Callback}
    (h : ∀ r, (f r).functions = r.functions) (k : EngineId) :
    Session.functionsOf { s with directory := s.directory.adjust id f } k = s.functionsOf k := by
  show (((s.directory.adjust id f).lookup k).map (·.functions)).getD ∅ =
    ((s.directory.lookup k).map (·.functions)).getD ∅
  rw [Directory.lookup_adjust]
  split
  case isFalse => rfl
  case isTrue => cases s.directory.lookup k <;> simp [h]

theorem Change.tables (h : Change bindsByHandle s js t)
    (hfiled : ∀ (name : String) (handle : Handle), s.handles[name]? = some handle →
      (s.directory.lookup handle.id).isSome) : TableChange s t (Journal.created js) := by
  cases h with
  | noted | handled | desk | named => exact .still (fun _ => rfl) fun _ => rfl
  | filed id directory hinsert =>
    refine .still (fun _ => rfl) fun k => ?_
    show ((directory.lookup k).map (·.functions)).getD ∅ =
      ((s.directory.lookup k).map (·.functions)).getD ∅
    rw [Directory.lookup_insert? hinsert]
    split
    case isFalse => rfl
    case isTrue hk =>
      have hnone : s.directory.lookup id = none := (Directory.insert?_eq_some_iff.1 hinsert).1
      rw [← hk, hnone]
      rfl
  | created index id ids f hcreate =>
    rcases Foreign.bindings?_create hcreate with hbindings | rfl
    case inl =>
      refine .created ⟨index, id⟩ (fun k hk => ?_) (.inl ?_) fun _ => rfl
      · rw [Session.bindingsAt?_setForeign]
        by_cases hindex : index = k.foreign
        case neg => exact if_neg hindex
        case pos =>
          have hid : id ≠ k.id := fun hid => hk (by rw [hindex, hid])
          rw [if_pos hindex, hbindings, if_neg hid, hindex]
          rfl
      · rw [Session.bindingsAt?_setForeign, if_pos rfl, hbindings, if_pos rfl]
    case inr =>
      have hsame (k : Site) : (({ s with ids }).setForeign index
          ((foreignAt index).get s)).bindingsAt? k = s.bindingsAt? k :=
        Session.bindingsAt?_setForeign_same fun _ => rfl
      exact .created ⟨index, id⟩ (fun k _ => hsame k) (.inr (hsame _)) fun _ => rfl
  | installed index id binary g hinstall =>
    exact .still (fun _ => Session.bindingsAt?_setForeign_same (Foreign.bindings?_install hinstall))
      fun _ => rfl
  | bound index id name binding g hop => exact absurd hop not_bindsByHandle
  | listened index id entry g hop hlisten =>
    exact .still (fun _ => Session.bindingsAt?_setForeign_same (Foreign.bindings?_listen hlisten))
      fun _ => rfl
  | scripted index e id f hscripted hf =>
    exact .still (fun _ => Session.bindingsAt?_setForeign_same
      (Foreign.bindings?_scripted hscripted hf)) fun _ => rfl
  | recorded site slot p image patched hslot =>
    exact .still (fun _ => Session.bindingsAt?_setSlotAt hslot rfl) fun _ => rfl
  | subscribed name handle subscriber g hkept hhandle hlisten =>
    refine .still (fun k => ?_) fun k => ?_
    · exact Session.bindingsAt?_setForeign_same (Foreign.bindings?_listen hlisten)
    · show Session.functionsOf { s with
        directory := s.directory.adjust handle.id ({ · with subscriber := some subscriber }) } k = _
      refine Session.functionsOf_adjust (fun r => ?_) k
      rfl
  | unsubscribed id => exact .still (fun _ => rfl) (Session.functionsOf_adjust fun _ => rfl)
  | registered name functionName handle f record g hkept hhandle hregister hbind =>
    obtain ⟨r, hr⟩ := Option.isSome_iff_exists.1 (hfiled name handle hhandle)
    obtain ⟨old, hold, hbindings⟩ := Foreign.bindings?_bind hbind
    rw [Handle.record, hr, Option.getD_some] at hregister
    obtain ⟨hfree, rfl⟩ := EngineRecord.register_eq_ok_iff.1 hregister
    have hfunctions : s.functionsOf handle.id = r.functions := by
      rw [Session.functionsOf, hr, Option.map_some, Option.getD_some]
    refine .registered ⟨handle.foreign, handle.id⟩ functionName f old hold ?_ (fun k => ?_)
      fun k => ?_
    · rw [hfunctions, hfree]
    · rw [Session.bindingsAt?_setForeign]
      by_cases hindex : handle.foreign = k.foreign
      case neg =>
        have hk : (⟨handle.foreign, handle.id⟩ : Site) ≠ k := fun hk => hindex (congrArg (·.foreign) hk)
        rw [if_neg hindex, if_neg hk]
        rfl
      case pos =>
        rw [if_pos hindex, hbindings]
        by_cases hid : handle.id = k.id
        case neg =>
          have hk : (⟨handle.foreign, handle.id⟩ : Site) ≠ k := fun hk => hid (congrArg (·.id) hk)
          rw [if_neg hid, if_neg hk, hindex]
          rfl
        case pos => rw [if_pos hid, if_pos (by rw [hindex, hid])]
    · show (((s.directory.adjust handle.id _).lookup k).map (·.functions)).getD ∅ = _
      rw [Directory.lookup_adjust]
      by_cases hk : handle.id = k
      case neg =>
        rw [if_neg hk, if_neg hk]
        rfl
      case pos =>
        subst hk
        rw [if_pos rfl, if_pos rfl, hfunctions, hr]
        rfl

end

end EngineHost
