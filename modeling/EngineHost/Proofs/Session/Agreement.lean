import EngineHost.Proofs.Session.Guarding
import EngineHost.Proofs.Session.Permanence
import EngineHost.Proofs.Session.Tables
import Mathlib.Data.List.Nodup
/-
Agreement of the two tables.  While imports are bound through handles only, and
no identity is handed out twice, the record of an engine lists exactly what is
bound in the foreign engine that made it, name by name and shape by shape.

What carries this is that an identity is known to one foreign engine at most, so
a handle on any other one is refused and leaves the record alone.  The journal
of a course says which engines were created, and it is asked to name no identity
twice.
-/
namespace EngineHost

/-! ## The invariant -/

/-- What is bound is what is registered, and every binding is an entry of the
dispatcher that serves it. -/
structure Matching (bindings : Bindings)
    (functions : Std.ExtTreeMap String (HostFunction Callback)) : Prop where
  shapes : ∀ name : String, (bindings[name]?).map (·.shape) = (functions[name]?).map (·.shape)
  entries : ∀ (name : String) (b : Binding), bindings[name]? = some b →
    b.entry = .forShape b.shape ∧ b.entry.accepts b.shape = true

/-- The dispatcher has an entry for whatever can be registered. -/
theorem accepts_forShape (f : HostFunction Callback) :
    (EntryPoint.forShape f.shape).accepts f.shape = true := by
  cases f with
  | notify arity fixed callback =>
    show (CallShape.notifyOf? arity).isSome = true
    rw [CallShape.notifyOf?, if_pos fixed, Option.isSome_some]
  | i32 | i64 => rfl

theorem Matching.empty : Matching ∅ ∅ := by
  constructor
  · intro name
    simp
  · intro name b hb
    simp at hb

theorem Matching.insert {bindings : Bindings}
    {functions : Std.ExtTreeMap String (HostFunction Callback)} (h : Matching bindings functions)
    (name : String) (f : HostFunction Callback) :
    Matching (bindings.insert name { shape := f.shape, entry := .forShape f.shape })
      (functions.insert name f) := by
  constructor
  · intro k
    simp only [Std.ExtTreeMap.getElem?_insert]
    split
    · rfl
    · exact h.shapes k
  · intro k b hb
    rw [Std.ExtTreeMap.getElem?_insert] at hb
    split at hb
    · cases hb
      exact ⟨rfl, accepts_forShape f⟩
    · exact h.entries k b hb

/-- The tables of a session, with the engines that were created so far. -/
structure Session.Agreed (s : Session) (created : List Site) : Prop where
  known : ∀ site bindings, s.bindingsAt? site = some bindings → site ∈ created
  bound : ∀ site bindings, s.bindingsAt? site = some bindings →
    Matching bindings (s.functionsOf site.id)
  unbound : ∀ id, (∀ index, s.bindingsAt? ⟨index, id⟩ = none) → s.functionsOf id = ∅

/-- Each of these engines has an identity of its own. -/
def Distinct (created : List Site) : Prop := (created.map (·.id)).Nodup

instance (created : List Site) : Decidable (Distinct created) :=
  inferInstanceAs (Decidable (List.Nodup _))

section

variable {s t : Session} {created new : List Site} {js : Journal}

theorem Distinct.eq {a b : Site} (h : Distinct created) (ha : a ∈ created) (hb : b ∈ created)
    (hid : a.id = b.id) : a = b :=
  List.inj_on_of_nodup_map h ha hb hid

theorem Distinct.left (h : Distinct (created ++ new)) : Distinct created := by
  unfold Distinct at h ⊢
  rw [List.map_append] at h
  exact h.of_append_left

/-- An engine that is created anew has an identity that no other one has. -/
theorem Distinct.id_ne {a b : Site} (h : Distinct (created ++ [b])) (ha : a ∈ created) :
    a.id ≠ b.id := by
  unfold Distinct at h
  rw [List.map_append, List.nodup_append] at h
  exact h.2.2 _ (List.mem_map_of_mem ha) _ (by simp)

/-- An engine that is created anew was known nowhere. -/
theorem Session.Agreed.unknown {site k : Site} (hs : s.Agreed created)
    (hdistinct : Distinct (created ++ [site])) (hid : k.id = site.id) :
    s.bindingsAt? k = none := by
  cases hk : s.bindingsAt? k with
  | none => rfl
  | some bindings =>
    exact absurd hid (hdistinct.id_ne (hs.known k bindings hk))

theorem TableChange.agreed (h : TableChange s t new) (hs : s.Agreed created)
    (hdistinct : Distinct (created ++ new)) : t.Agreed (created ++ new) := by
  cases h with
  | still hbindings hfunctions =>
    rw [List.append_nil]
    refine ⟨fun site bindings hb => ?_, fun site bindings hb => ?_, fun id hid => ?_⟩
    · exact hs.known site bindings (hbindings site ▸ hb)
    · rw [hfunctions]
      exact hs.bound site bindings (hbindings site ▸ hb)
    · rw [hfunctions]
      exact hs.unbound id fun index => hbindings ⟨index, id⟩ ▸ hid index
  | created site hother hsite hfunctions =>
    -- The new engine has nothing bound, and nothing registered under its name.
    have hnone : s.bindingsAt? site = none := hs.unknown hdistinct rfl
    have hempty : s.functionsOf site.id = ∅ :=
      hs.unbound site.id fun index => hs.unknown hdistinct rfl
    have hafter (k : Site) (bindings : Bindings) (hb : t.bindingsAt? k = some bindings) :
        k = site ∧ bindings = ∅ ∨ s.bindingsAt? k = some bindings := by
      by_cases hk : k = site
      case neg => exact .inr (hother k hk ▸ hb)
      case pos =>
        subst hk
        rcases hsite with hsite | hsite
        · rw [hsite, Option.some.injEq] at hb
          exact .inl ⟨rfl, hb.symm⟩
        · exact .inr (hsite ▸ hb)
    refine ⟨fun k bindings hb => ?_, fun k bindings hb => ?_, fun id hid => ?_⟩
    · rcases hafter k bindings hb with ⟨rfl, _⟩ | hb
      · exact List.mem_append_right _ (List.mem_singleton_self k)
      · exact List.mem_append_left _ (hs.known k bindings hb)
    · rw [hfunctions]
      rcases hafter k bindings hb with ⟨rfl, rfl⟩ | hb
      · rw [hempty]
        exact .empty
      · exact hs.bound k bindings hb
    · rw [hfunctions]
      by_cases hk : id = site.id
      case pos => rw [hk, hempty]
      case neg =>
        refine hs.unbound id fun index => ?_
        rw [← hother ⟨index, id⟩ fun heq => hk (congrArg (·.id) heq)]
        exact hid index
  | registered site name f old hold hfree hbindings hfunctions =>
    rw [List.append_nil] at hdistinct ⊢
    have hsite : site ∈ created := hs.known site old hold
    refine ⟨fun k bindings hb => ?_, fun k bindings hb => ?_, fun id hid => ?_⟩
    · rw [hbindings] at hb
      split at hb
      case isTrue hk => exact hk ▸ hsite
      case isFalse => exact hs.known k bindings hb
    · rw [hbindings] at hb
      rw [hfunctions]
      by_cases hk : site = k
      case pos =>
        subst hk
        rw [if_pos rfl, Option.some.injEq] at hb
        rw [if_pos rfl, ← hb]
        exact (hs.bound site old hold).insert name f
      case neg =>
        rw [if_neg hk] at hb
        -- No other foreign engine knows the identity.
        have hid : site.id ≠ k.id := fun hid =>
          hk (hdistinct.eq hsite (hs.known k bindings hb) hid)
        rw [if_neg hid]
        exact hs.bound k bindings hb
    · by_cases hk : site.id = id
      case pos =>
        subst hk
        have hnone := hid site.foreign
        rw [hbindings, if_pos rfl] at hnone
        cases hnone
      case neg =>
        rw [hfunctions, if_neg hk]
        refine hs.unbound id fun index => ?_
        have hother := hid index
        rwa [hbindings, if_neg fun heq => hk (congrArg (·.id) heq)] at hother

/-- What holds of a session and the engines created so far, and is kept by all
changes that hand out no identity twice, is kept by a course that hands out
none. -/
theorem Course.creating {d : Discipline} {I : Session → List Site → Prop}
    (hchange : ∀ {s js t created}, Change d s js t → s.Settled → I s created →
      Distinct (created ++ Journal.created js) → I t (created ++ Journal.created js))
    (hstored : ∀ {s site slot memory created}, s.slotAt? site = some slot → I s created →
      Distinct created → I (s.setSlotAt site { slot with image := some memory }) created)
    (h : Course d s js t) (hsettled : s.Settled) (hs : I s created)
    (hdistinct : Distinct (created ++ Journal.created js)) :
    I t (created ++ Journal.created js) := by
  induction h generalizing created with
  | nil s =>
    show I s (created ++ [])
    rwa [List.append_nil]
  | change hc _ ih =>
    rw [Journal.created_append, ← List.append_assoc] at hdistinct ⊢
    exact ih ((Course.one hc).settled hsettled) (hchange hc hsettled hs hdistinct.left) hdistinct
  | @execution s t u v js rest site tracer slot m deed htracer hslot hmodule hwithin hafter hrest
      ihwithin ihrest =>
    have hsettled' := hwithin.settled hsettled
    cases hafter with
    | kept slot memory hslot | captured slot memory hslot =>
      -- Storing a memory creates nothing.
      have hcreated (deed : Deed) (hdeed : Journal.created [(site, deed)] = []) :
          Journal.created ((site, .planned) :: js ++ (site, deed) :: rest) =
            Journal.created js ++ Journal.created rest := by
        have hplanned : (site, Deed.planned) :: js ++ (site, deed) :: rest =
            [(site, Deed.planned)] ++ js ++ [(site, deed)] ++ rest := by
          rw [List.append_assoc, List.append_assoc]
          rfl
        rw [hplanned, Journal.created_append, Journal.created_append, Journal.created_append, hdeed,
          List.append_nil]
        rfl
      rw [hcreated _ rfl, ← List.append_assoc] at hdistinct ⊢
      have ht := ihwithin hsettled hs hdistinct.left
      exact ihrest ⟨hsettled'.directory, hsettled'.handles⟩ (hstored hslot ht hdistinct.left)
        hdistinct

theorem Course.agreed (h : Course bindsByHandle s js t) (hsettled : s.Settled)
    (hs : s.Agreed created) (hdistinct : Distinct (created ++ Journal.created js)) :
    t.Agreed (created ++ Journal.created js) := by
  refine Course.creating (I := Session.Agreed) ?_ ?_ h hsettled hs hdistinct
  case refine_1 =>
    intro s js t created hchange hsettled hs hdistinct
    exact (hchange.tables hsettled.handles).agreed hs hdistinct
  case refine_2 =>
    intro s site slot memory created hslot hs hdistinct
    have htables : TableChange s (s.setSlotAt site { slot with image := some memory }) [] :=
      .still (fun _ => Session.bindingsAt?_setSlotAt hslot rfl) fun _ => rfl
    rw [← List.append_nil created] at hdistinct ⊢
    exact htables.agreed hs hdistinct

theorem Session.Fresh.bindingsAt? (hs : s.Fresh) (site : Site) : s.bindingsAt? site = none := by
  have hfresh := hs.foreign site.foreign
  unfold Session.bindingsAt? Foreign.bindings?
  cases hf : (foreignAt site.foreign).get s with
  | scripted e | pinned e | tracing t =>
    rw [hf] at hfresh
    simp only [Foreign.Fresh] at hfresh
    simp [hfresh]

theorem Session.Fresh.agreed (hs : s.Fresh) : s.Agreed [] := by
  refine ⟨fun site bindings hb => ?_, fun site bindings hb => ?_, fun id _ => ?_⟩
  · rw [hs.bindingsAt?] at hb
    cases hb
  · rw [hs.bindingsAt?] at hb
    cases hb
  · rw [Session.functionsOf, hs.directory]
    rfl

end

/-! ## Registering -/

section

variable {s : Session} {go : Callback → Run Int32} {h : Handle} {name : String}
  {f : HostFunction Callback}

theorem Hosted.run_get_bind {α : Type} (k : Session → Hosted α) (u : Session) :
    (get >>= k : Hosted α).run u = (k u).run u := rfl

/-- A name that is taken ends in a fault, and the fault is all that happens. -/
theorem register_of_contained (hname : (h.record s).functions.contains name = true) :
    (h.register go name f).run s =
      (Handle.fail go (.duplicateFunction (h.record s).id name) : Hosted Unit).run s := by
  have hregister : (h.record s).register name f =
      .error (.duplicateFunction (h.record s).id name) := if_pos hname
  unfold Handle.register
  rw [Hosted.run_get_bind, hregister]

/-- What comes of a function that the record can take in.  If the engine refuses
the import it is out of the record again before the fault is shown. -/
theorem register_of_taken_in {filed : EngineRecord Callback}
    (hregister : (h.record s).register name f = .ok filed) :
    (h.register go name f).run s =
      match ((foreignAt h.foreign).get s).bind? h.id name
        { shape := f.shape, entry := .forShape f.shape } with
      | some g => some (.ok (), { s with directory := s.directory.adjust h.id fun _ => filed }.setForeign
          h.foreign g)
      | none => (Handle.fail go (.importRejected h.id name f.shape) : Hosted Unit).run s := by
  have hsame (dir : Directory Callback) :
      (foreignAt h.foreign).get { s with directory := dir } = (foreignAt h.foreign).get s := rfl
  unfold Handle.register
  rw [Hosted.run_get_bind, hregister]
  dsimp only
  rw [Turn.run_lift_bind, Turn.bind_eq_of_eq_some (changeDirectory_eq _), Hosted.run_get_bind, hsame]
  cases ((foreignAt h.foreign).get s).bind? h.id name
    { shape := f.shape, entry := .forShape f.shape } with
  | some g => rfl
  | none =>
    dsimp only
    rw [Turn.run_lift_bind, Turn.bind_eq_of_eq_some (changeDirectory_eq _),
      Directory.adjust_register_discard hregister]

theorem bind?_of_registers : (((foreignAt h.foreign).get s).bind? h.id name
    { shape := f.shape, entry := .forShape f.shape }).isSome = true ↔
      ((foreignAt h.foreign).get s).Takes h.id := by
  rw [Foreign.bind?_isSome_iff, and_iff_right (accepts_forShape f)]

theorem register_of_refused {filed : EngineRecord Callback}
    (hregister : (h.record s).register name f = .ok filed)
    (htakes : ¬ ((foreignAt h.foreign).get s).Takes h.id) :
    (h.register go name f).run s =
      (Handle.fail go (.importRejected h.id name f.shape) : Hosted Unit).run s := by
  rw [← bind?_of_registers, Option.not_isSome_iff_eq_none] at htakes
  rw [register_of_taken_in hregister, htakes]

theorem register_of_takes {filed : EngineRecord Callback}
    (hregister : (h.record s).register name f = .ok filed)
    (htakes : ((foreignAt h.foreign).get s).Takes h.id) :
    ∃ t, ∀ go, (h.register go name f).run s = some (.ok (), t) := by
  obtain ⟨g, hg⟩ := Option.isSome_iff_exists.1 (bind?_of_registers.2 htakes)
  refine ⟨{ s with directory := s.directory.adjust h.id fun _ => filed }.setForeign h.foreign g,
    fun go => ?_⟩
  rw [register_of_taken_in hregister, hg]

/-- A fault that is shown is what the action ends with. -/
theorem fail_eq_some {α : Type} {cause : BindingFault} {result : Except HostError α} {t : Session}
    (hrun : (Handle.fail go cause : Hosted α).run s = some (result, t)) :
    result = .error (.fault cause) := by
  unfold Handle.fail at hrun
  obtain ⟨_, _, _, ⟨⟩⟩ := Turn.run_lift_bind_eq_some_iff.1 hrun
  rfl

end

/-! ## Agreement -/

/-- What comes of registering a function through a handle on an engine with
these functions.  Which answer it has depends on the record and on whether the
engine takes imports, and not on the shape.  Either fault is shown to the
handler in the session in which the registration was asked for, with both tables
as they were. -/
structure Handle.Registers (h : Handle) (s : Session)
    (functions : Std.ExtTreeMap String (HostFunction Callback)) (name : String)
    (f : HostFunction Callback) : Prop where
  answers : ∀ go result t, (h.register go name f).run s = some (result, t) →
    (result = .error (.fault (.duplicateFunction h.id name)) ↔ name ∈ functions) ∧
    (result = .error (.fault (.importRejected h.id name f.shape)) ↔
      name ∉ functions ∧ ¬ ((foreignAt h.foreign).get s).Takes h.id) ∧
    (result = .ok () ↔ name ∉ functions ∧ ((foreignAt h.foreign).get s).Takes h.id)
  duplicate : name ∈ functions → ∀ go, (h.register go name f).run s =
    (Handle.fail go (.duplicateFunction h.id name) : Hosted Unit).run s
  rejected : name ∉ functions → ¬ ((foreignAt h.foreign).get s).Takes h.id →
    ∀ go, (h.register go name f).run s =
      (Handle.fail go (.importRejected h.id name f.shape) : Hosted Unit).run s
  accepted : name ∉ functions → ((foreignAt h.foreign).get s).Takes h.id →
    ∃ t, ∀ go, (h.register go name f).run s = some (.ok (), t)

/-- The tables of every engine agree, and registering keeps to them. -/
structure Session.TablesAgree (s : Session) (created : List Site) : Prop where
  tables : ∀ site ∈ created, ∀ r, s.directory.lookup site.id = some r →
    Matching ((s.bindingsAt? site).getD ∅) r.functions
  registers : ∀ (handleName : String) (h : Handle), s.handles[handleName]? = some h →
    ∃ r, s.directory.lookup h.id = some r ∧ ∀ name f, h.Registers s r.functions name f

section

variable {s : Session} {created : List Site}

theorem Session.Settled.registers (hs : s.Settled) {handleName : String} {h : Handle}
    (hh : s.handles[handleName]? = some h) :
    ∃ r, s.directory.lookup h.id = some r ∧ ∀ name f, h.Registers s r.functions name f := by
  obtain ⟨r, hr⟩ := Option.isSome_iff_exists.1 (hs.handles handleName h hh)
  have hrecord : h.record s = r := by rw [Handle.record, hr, Option.getD_some]
  have hid : r.id = h.id := hs.directory h.id r hr
  refine ⟨r, hr, fun name f => ?_⟩
  have hduplicate (hname : name ∈ r.functions) (go : Callback → Run Int32) :
      (h.register go name f).run s =
        (Handle.fail go (.duplicateFunction h.id name) : Hosted Unit).run s := by
    have hcontained : (h.record s).functions.contains name = true := by
      rwa [hrecord, Std.ExtTreeMap.contains_iff_mem]
    rw [register_of_contained hcontained, hrecord, hid]
  have htaken_in (hname : name ∉ r.functions) :
      ∃ filed, (h.record s).register name f = .ok filed := by
    refine ⟨_, EngineRecord.register_eq_ok_iff.2 ⟨?_, rfl⟩⟩
    rw [hrecord]
    exact Std.ExtTreeMap.getElem?_eq_none hname
  have hrejected (hname : name ∉ r.functions) (htakes : ¬ ((foreignAt h.foreign).get s).Takes h.id)
      (go : Callback → Run Int32) : (h.register go name f).run s =
        (Handle.fail go (.importRejected h.id name f.shape) : Hosted Unit).run s := by
    obtain ⟨filed, hregister⟩ := htaken_in hname
    exact register_of_refused hregister htakes
  have haccepted (hname : name ∉ r.functions) (htakes : ((foreignAt h.foreign).get s).Takes h.id) :
      ∃ t, ∀ go, (h.register go name f).run s = some (.ok (), t) := by
    obtain ⟨filed, hregister⟩ := htaken_in hname
    exact register_of_takes hregister htakes
  refine ⟨fun go result t hrun => ?_, hduplicate, hrejected, haccepted⟩
  by_cases hname : name ∈ r.functions
  case pos =>
    rw [hduplicate hname] at hrun
    simp [fail_eq_some hrun, hname]
  case neg =>
    by_cases htakes : ((foreignAt h.foreign).get s).Takes h.id
    case neg =>
      rw [hrejected hname htakes] at hrun
      simp [fail_eq_some hrun, hname, htakes]
    case pos =>
      obtain ⟨u, haccepted⟩ := haccepted hname htakes
      rw [haccepted] at hrun
      cases hrun
      simp [hname, htakes]

theorem Session.Agreed.tables (hs : s.Agreed created) (hdistinct : Distinct created) {site : Site}
    (hsite : site ∈ created) {r : EngineRecord Callback}
    (hr : s.directory.lookup site.id = some r) :
    Matching ((s.bindingsAt? site).getD ∅) r.functions := by
  have hfunctions : s.functionsOf site.id = r.functions := by
    rw [Session.functionsOf, hr, Option.map_some, Option.getD_some]
  rw [← hfunctions]
  cases hbindings : s.bindingsAt? site with
  | some bindings => exact hs.bound site bindings hbindings
  | none =>
    have hempty : s.functionsOf site.id = ∅ := by
      refine hs.unbound site.id fun index => ?_
      cases hk : s.bindingsAt? ⟨index, site.id⟩ with
      | none => rfl
      | some bindings =>
        have hsame : (⟨index, site.id⟩ : Site) = site :=
          hdistinct.eq (hs.known _ bindings hk) hsite rfl
        rw [hsame, hbindings] at hk
        cases hk
    rw [hempty]
    exact .empty

end

/-- A session that another one has come to, with tables that agree unless an
identity was handed out twice on the way. -/
structure Session.ComesTo (s t : Session) : Prop where
  course : ∃ js, Course bindsByHandle s js t
  agree : ∀ js, Course bindsByHandle s js t → Distinct (Journal.created js) →
    t.TablesAgree (Journal.created js)

theorem Session.Fresh.comesTo {s t : Session} (hs : s.Fresh)
    (h : ∃ js, Course bindsByHandle s js t) : s.ComesTo t := by
  refine ⟨h, fun js hcourse hdistinct => ⟨fun site hsite r hr => ?_, fun name handle hhandle => ?_⟩⟩
  · exact (hcourse.agreed hs.settled hs.agreed hdistinct).tables hdistinct hsite hr
  · exact (hcourse.settled hs.settled).registers hhandle

/-- While imports are bound through handles only, by the session and by its
callbacks, the two tables agree in every session that the run passes through. -/
theorem tables_agree {s : Session} (hs : s.Fresh) {ops : List Op}
    (hops : ∀ op ∈ ops, op.Throughout Op.BindsByHandle) {budget depth : Nat}
    {log : List (Answer × List Event)} (h : s.transcript budget depth ops = some log) :
    s.guarded s.ComesTo budget depth ops = some log := by
  refine Session.guarded_eq_transcript (d := bindsByHandle)
    (I := fun t => t.Kept bindsByHandle ∧ ∃ js, Course bindsByHandle s js t) (fun ht => ht.1)
    (fun hcourse ht => ?_) (fun ht => hs.comesTo ht.2) ⟨hs.kept, [], .nil s⟩ hops h
  obtain ⟨hkept, js, hbefore⟩ := ht
  exact ⟨hcourse.kept hkept, _, hbefore.trans hcourse⟩

/-! ## An engine that stops taking imports -/

/-- A name that is registered, one that the engine refuses, and the first one
once more. -/
def refusedOps : List Op := [
  .handle "a" (.create 0),
  .handle "a" (.register "f" (.i32 1 fun _ => .done 7)),
  .scripted 0 (.refuse ⟨1⟩),
  .handle "a" (.register "g" (.i64 2 fun _ => .done 8)),
  .handle "a" (.register "f" (.i32 1 fun _ => .done 9))]

theorem refusedOps_bindsByHandle : ∀ op ∈ refusedOps, op.Throughout Op.BindsByHandle := by
  simp only [refusedOps, List.forall_mem_cons]
  refine ⟨.intro trivial ?_, .intro trivial ?_, .intro trivial ?_, .intro trivial ?_,
    .intro trivial ?_, nofun⟩
  · intro _ heq
    cases heq
  · intro _ h
    obtain ⟨⟨⟩⟩ := h
    exact .done 7
  · intro _ heq
    cases heq
  · intro _ h
    obtain ⟨⟨⟩⟩ := h
    exact .done 8
  · intro _ h
    obtain ⟨⟨⟩⟩ := h
    exact .done 9

/-- The run goes through, and a course with an engine in it names no identity
twice. -/
theorem refusedOps_agree :
    (soleSession (.scripted {})).Fresh ∧ (∀ op ∈ refusedOps, op.Throughout Op.BindsByHandle) ∧
      (∃ log, (soleSession (.scripted {})).transcript 9 3 refusedOps = some log ∧
        (soleSession (.scripted {})).guarded (soleSession (.scripted {})).ComesTo 9 3 refusedOps =
          some log) ∧
      ∃ t, Course bindsByHandle (soleSession (.scripted {})) [(⟨0, ⟨1⟩⟩, .created)] t ∧
        Distinct (Journal.created [(⟨0, ⟨1⟩⟩, .created)]) := by
  have hfresh : (soleSession (.scripted {})).Fresh := soleSession_fresh rfl
  have hsome : ((soleSession (.scripted {})).transcript 9 3 refusedOps).isSome := by
    decide +kernel
  obtain ⟨log, hlog⟩ := Option.isSome_iff_exists.1 hsome
  refine ⟨hfresh, refusedOps_bindsByHandle, ⟨log, hlog, ?_⟩, ?_⟩
  · exact tables_agree hfresh refusedOps_bindsByHandle hlog
  · exact ⟨_, .one (.created 0 ⟨1⟩ _ _ rfl), by decide⟩

end EngineHost
