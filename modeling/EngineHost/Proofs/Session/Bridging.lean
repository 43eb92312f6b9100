import EngineHost.Proofs.Guest.Typing
import EngineHost.Proofs.Session.Performing
import EngineHost.Proofs.Session.SlotChanges
import EngineHost.Proofs.Tracer.Replies
/-
Bridged sessions.  When imports are bound and listeners armed through handles
only, what is bound in an engine is registered in its record, in the shape it
was bound with, and an armed listener has a record to report to.  A guest that
calls such imports is never answered with a fault.

The directory side never shrinks, which is what keeps a plan good while the
host does what it likes to the engine that made it.
-/
namespace EngineHost

/-! ## Directories that grow -/

/-- Nothing that `a` holds is missing in `b`. -/
def Directory.Grows (a b : Directory Callback) : Prop :=
  ∀ id r, a.lookup id = some r → ∃ r', b.lookup id = some r' ∧
    ∀ (name : String) (f : HostFunction Callback), r.functions[name]? = some f →
      r'.functions[name]? = some f

namespace Directory.Grows

variable {a b c : Directory Callback}

theorem refl (a : Directory Callback) : a.Grows a := fun _ r hr => ⟨r, hr, fun _ _ hf => hf⟩

theorem trans (hab : a.Grows b) (hbc : b.Grows c) : a.Grows c := by
  intro id r hr
  obtain ⟨r', hr', hsub⟩ := hab id r hr
  obtain ⟨r'', hr'', hsub'⟩ := hbc id r' hr'
  exact ⟨r'', hr'', fun name f hf => hsub' name f (hsub name f hf)⟩

theorem isSome {id : EngineId} (h : a.Grows b) (ha : (a.lookup id).isSome) :
    (b.lookup id).isSome := by
  obtain ⟨r, hr⟩ := Option.isSome_iff_exists.1 ha
  obtain ⟨r', hr', _⟩ := h id r hr
  rw [hr', Option.isSome_some]

theorem adjust {id : EngineId} {f : EngineRecord Callback → EngineRecord Callback}
    (hf : ∀ r, a.lookup id = some r → ∀ (name : String) (g : HostFunction Callback),
      r.functions[name]? = some g → (f r).functions[name]? = some g) : a.Grows (a.adjust id f) := by
  intro k r hr
  rw [lookup_adjust]
  split
  case isTrue hk =>
    subst hk
    exact ⟨f r, by rw [hr, Option.map_some], hf r hr⟩
  case isFalse => exact ⟨r, hr, fun _ _ hg => hg⟩

end Directory.Grows

section

variable {d : Discipline} {s t : Session} {js : Journal}

/-- A registration adds a function to those that are there. -/
theorem EngineRecord.functions_of_register {r filed : EngineRecord Callback} {name k : String}
    {f g : HostFunction Callback} (h : r.register name f = .ok filed)
    (hg : r.functions[k]? = some g) : filed.functions[k]? = some g := by
  obtain ⟨hnone, rfl⟩ := register_eq_ok_iff.1 h
  show (r.functions.insert name f)[k]? = some g
  simp only [Std.ExtTreeMap.getElem?_insert, Std.LawfulEqCmp.compare_eq_iff_eq]
  split
  case isTrue hk =>
    rw [hk, hg] at hnone
    cases hnone
  case isFalse => exact hg

theorem Change.directory_grows (h : Change d s js t) : s.directory.Grows t.directory := by
  cases h with
  | noted | handled | desk | named | created | installed | bound | listened | scripted | recorded =>
    exact .refl _
  | filed id directory hinsert =>
    intro k r hr
    refine ⟨r, ?_, fun _ _ hf => hf⟩
    show directory.lookup k = some r
    rw [Directory.lookup_insert? hinsert]
    split
    case isTrue hk =>
      rw [← hk, (Directory.insert?_eq_some_iff.1 hinsert).1] at hr
      cases hr
    case isFalse => exact hr
  | registered name functionName handle f record g hkept hhandle hregister =>
    refine .adjust fun r hr k g hg => ?_
    rw [Handle.record, hr, Option.getD_some] at hregister
    exact EngineRecord.functions_of_register hregister hg
  | subscribed | unsubscribed => exact .adjust fun _ _ _ _ hg => hg

/-- A handle is on an engine with a record. -/
theorem Change.handles_filed (h : Change d s js t)
    (hs : ∀ (name : String) (handle : Handle), s.handles[name]? = some handle →
      (s.directory.lookup handle.id).isSome) (name : String) (handle : Handle)
    (hhandle : t.handles[name]? = some handle) : (t.directory.lookup handle.id).isSome := by
  have hgrows := h.directory_grows
  cases h with
  | named target new hfiled =>
    simp only [Std.ExtTreeMap.getElem?_insert, Std.LawfulEqCmp.compare_eq_iff_eq] at hhandle
    split at hhandle
    case isFalse => exact hs name handle hhandle
    case isTrue =>
      cases hhandle
      rcases hfiled with hfiled | ⟨other, hother⟩
      · exact hfiled
      · exact hs other _ hother
  | noted | handled | desk | created | filed | registered | subscribed | unsubscribed | installed
  | bound | listened | scripted | recorded => exact hgrows.isSome (hs name handle hhandle)

theorem Course.directory_grows (h : Course d s js t) : s.directory.Grows t.directory :=
  h.preserves (P := fun u => s.directory.Grows u.directory)
    (fun _ _ _ hchange hs => hs.trans hchange.directory_grows) (fun _ _ _ _ _ hs => hs) (.refl _)

end

/-! ## The invariant -/

/-- A binding leads to the dispatcher, and to a function of its shape there. -/
structure Directory.Serves (dir : Directory Callback) (id : EngineId) (name : String)
    (b : Binding) : Prop where
  entry : b.entry = .forShape b.shape
  function : ∃ r f, dir.lookup id = some r ∧ r.functions[name]? = some f ∧ f.shape = b.shape

/-- A listener is the dispatcher's, and there is a record to report to. -/
structure Directory.Hears (dir : Directory Callback) (id : EngineId) (entry : LogEntry) : Prop where
  entry : entry = .dispatcher
  record : (dir.lookup id).isSome

theorem Directory.Serves.grow {a b : Directory Callback} {id : EngineId} {name : String}
    {binding : Binding} (h : a.Serves id name binding) (hab : a.Grows b) :
    b.Serves id name binding := by
  obtain ⟨hentry, r, f, hr, hf, hshape⟩ := h
  obtain ⟨r', hr', hsub⟩ := hab id r hr
  exact ⟨hentry, r', f, hr', hsub name f hf, hshape⟩

theorem Directory.Hears.grow {a b : Directory Callback} {id : EngineId} {entry : LogEntry}
    (h : a.Hears id entry) (hab : a.Grows b) : b.Hears id entry := ⟨h.entry, hab.isSome h.record⟩

/-- A slot whose imports and listener lead somewhere, with a module that checks. -/
structure TracerSlot.Bridged (slot : TracerSlot) (dir : Directory Callback) (id : EngineId) :
    Prop where
  bindings : ∀ (name : String) (b : Binding), slot.bindings[name]? = some b → dir.Serves id name b
  listener : ∀ entry, slot.listener = some entry → dir.Hears id entry
  module : ∀ m, slot.module = some m → m.flaw? = none

theorem TracerSlot.Bridged.empty {dir : Directory Callback} {id : EngineId} :
    ({} : TracerSlot).Bridged dir id := by
  constructor
  · intro name b hb
    rw [Std.ExtTreeMap.getElem?_empty] at hb
    cases hb
  · intro _ heq
    cases heq
  · intro _ heq
    cases heq

structure Session.Bridged (s : Session) : Prop where
  slots : ∀ site slot, s.slotAt? site = some slot → slot.Bridged s.directory site.id
  handles : ∀ (name : String) (h : Handle), s.handles[name]? = some h →
    (s.directory.lookup h.id).isSome

theorem TracerSlot.Bridged.grow {a b : Directory Callback} {slot : TracerSlot} {id : EngineId}
    (h : slot.Bridged a id) (hab : a.Grows b) : slot.Bridged b id :=
  ⟨fun name binding hb => (h.bindings name binding hb).grow hab,
    fun entry he => (h.listener entry he).grow hab, h.module⟩

/-- Operations that bind imports and arm listeners through handles only. -/
def Op.ThroughHost : Op → Prop
  | .foreign _ (.bind _ _ _) | .foreign _ (.listen _ _) => False
  | _ => True

/-- The discipline of such operations. -/
abbrev throughHost : Discipline := .throughout Op.ThroughHost

section

variable {s t : Session} {js : Journal}

theorem not_throughHost_bind {index : Nat} {id : EngineId} {name : String} {b : Binding} :
    ¬ throughHost.op (.foreign index (.bind id name b)) := by
  intro h
  obtain ⟨⟨⟩, _⟩ := h

theorem not_throughHost_listen {index : Nat} {id : EngineId} {entry : LogEntry} :
    ¬ throughHost.op (.foreign index (.listen id entry)) := by
  intro h
  obtain ⟨⟨⟩, _⟩ := h

theorem Binds.serves {site : Site} {name : String} {b : Binding}
    (h : Binds throughHost s t site name b) (hs : s.Bridged) : t.directory.Serves site.id name b := by
  cases h with
  | directly hop => exact absurd hop not_throughHost_bind
  | @registered handleName handle f record hhandle hid hb hregister hdirectory =>
    subst hb
    refine ⟨rfl, record, f, ?_, ?_, rfl⟩
    · obtain ⟨r, hr⟩ := Option.isSome_iff_exists.1 (hs.handles handleName handle hhandle)
      rw [hdirectory, Directory.lookup_adjust, ← hid, if_pos rfl, hr, Option.map_some]
    · obtain ⟨_, rfl⟩ := EngineRecord.register_eq_ok_iff.1 hregister
      exact Std.ExtTreeMap.getElem?_insert_self

theorem Listens.hears {site : Site} {entry : LogEntry} (h : Listens throughHost s site entry)
    (hs : s.Bridged) : s.directory.Hears site.id entry := by
  cases h with
  | directly hop => exact absurd hop not_throughHost_listen
  | subscribed hhandle hid hentry => exact ⟨hentry, hid ▸ hs.handles _ _ hhandle⟩

theorem Change.bridged (h : Change throughHost s js t) (hs : s.Bridged) : t.Bridged := by
  have hgrows := h.directory_grows
  constructor
  · intro site slot hslot
    have hchange := h.slot site
    rw [hslot] at hchange
    generalize hbefore : s.slotAt? site = before at hchange
    generalize deedsAt site js = deeds at hchange
    cases hchange with
    | unchanged => exact (hs.slots site slot hbefore).grow hgrows
    | created => exact .empty
    | installed old htracer hcompile =>
      have hold := (hs.slots site old hbefore).grow hgrows
      refine ⟨hold.bindings, hold.listener, ?_⟩
      intro _ heq
      cases heq
      exact Guest.Binary.flaw?_of_compile hcompile
    | bound old hbinds =>
      have hold := (hs.slots site old hbefore).grow hgrows
      refine ⟨fun k b hb => ?_, hold.listener, hold.module⟩
      simp only [Std.ExtTreeMap.getElem?_insert, Std.LawfulEqCmp.compare_eq_iff_eq] at hb
      split at hb
      case isFalse => exact hold.bindings k b hb
      case isTrue hk =>
        cases hb
        subst hk
        exact hbinds.serves hs
    | listened old hlistens =>
      have hold := (hs.slots site old hbefore).grow hgrows
      refine ⟨hold.bindings, ?_, hold.module⟩
      intro _ heq
      cases heq
      exact (hlistens.hears hs).grow hgrows
    | recorded old himage hpatch =>
      have hold := (hs.slots site old hbefore).grow hgrows
      exact ⟨hold.bindings, hold.listener, hold.module⟩
  · exact h.handles_filed hs.handles

theorem Course.bridged (h : Course throughHost s js t) (hs : s.Bridged) : t.Bridged := by
  refine h.preserves (fun _ _ _ hchange hs => hchange.bridged hs) ?_ hs
  intro s site slot memory hslot hs
  refine ⟨fun k after hafter => ?_, hs.handles⟩
  rw [Session.slotAt?_setSlotAt] at hafter
  split at hafter
  case isFalse => exact hs.slots k after hafter
  case isTrue hk =>
    cases hafter
    subst hk
    have hold := hs.slots site slot hslot
    exact ⟨hold.bindings, hold.listener, hold.module⟩

end

/-! ## Calls of guests -/

/-- A plan whose imports and listener lead somewhere. -/
structure Plan.Bridged (plan : Plan) (dir : Directory Callback) : Prop where
  bindings : ∀ (name : String) (b : Binding), plan.bindings[name]? = some b →
    dir.Serves plan.engine name b
  listener : ∀ entry, plan.listener = some entry → dir.Hears plan.engine entry

theorem Plan.Bridged.grow {plan : Plan} {a b : Directory Callback} (h : plan.Bridged a)
    (hab : a.Grows b) : plan.Bridged b :=
  ⟨fun name binding hb => (h.bindings name binding hb).grow hab,
    fun entry he => (h.listener entry he).grow hab⟩

section

variable {id : EngineId} {args : List Guest.Value} {n : Nat}

/-- Narrow arguments all go into a narrow call. -/
theorem marshal_narrow (h : Guest.typesOf args = List.replicate n .i32) :
    ∃ xs : List Int32, xs.length = n ∧ marshal id .notify args = .notify (id.narrowMarker :: xs) ∧
      marshal id .i32 args = .i32 (id.narrowMarker :: xs) := by
  refine ⟨_, ?_, rfl, rfl⟩
  induction args generalizing n with
  | nil =>
    cases n with
    | zero => rfl
    | succ => cases h
  | cons v args ih =>
    cases n with
    | zero => cases h
    | succ n =>
      rw [Guest.typesOf_cons, List.replicate_succ, List.cons.injEq] at h
      cases v with
      | i32 w => exact congrArg (· + 1) (ih h.2)
      | i64 | f32 | f64 => cases h.1

/-- Wide arguments all go into a wide call. -/
theorem marshal_wide (h : Guest.typesOf args = List.replicate n .i64) :
    ∃ xs : List Int64, xs.length = n ∧ marshal id .i64 args = .i64 (id.wideMarker :: xs) := by
  refine ⟨_, ?_, rfl⟩
  induction args generalizing n with
  | nil =>
    cases n with
    | zero => rfl
    | succ => cases h
  | cons v args ih =>
    cases n with
    | zero => cases h
    | succ n =>
      rw [Guest.typesOf_cons, List.replicate_succ, List.cons.injEq] at h
      cases v with
      | i64 w => exact congrArg (· + 1) (ih h.2)
      | i32 | f32 | f64 => cases h.1

/-- A call with arguments of the types that a binding was linked with resolves:
the marker is the engine's own, whatever its sign, and the count is right. -/
theorem Directory.Serves.resolve {dir : Directory Callback} {name : String} {b : Binding}
    (h : dir.Serves id name b) (hargs : Guest.typesOf args = b.shape.funcType.params) :
    ∃ c, dir.resolve id name (marshal id b.entry.path args) = .ok c := by
  obtain ⟨hentry, r, f, hr, hf, hshape⟩ := h
  have hfunction : dir.functionOf id name = .ok f := functionOf_eq_ok_iff.2 ⟨r, hr, hf⟩
  have hpath : b.entry.path = b.shape.path := congrArg EntryPoint.path hentry
  rw [hpath, ← hshape]
  rw [← hshape] at hargs
  cases f with
  | notify arity fixed callback =>
    obtain ⟨xs, hlength, hcall, -⟩ := marshal_narrow hargs
    exact ⟨callback xs, hcall ▸ resolve_notify hfunction hlength⟩
  | i32 params callback =>
    obtain ⟨xs, hlength, -, hcall⟩ := marshal_narrow hargs
    exact ⟨callback xs, hcall ▸ resolve_i32 hfunction hlength⟩
  | i64 params callback =>
    obtain ⟨xs, hlength, hcall⟩ := marshal_wide hargs
    exact ⟨callback xs, hcall ▸ resolve_i64 hfunction hlength⟩

/-- A log item is text, and the record it goes to is there. -/
theorem Directory.Hears.resolveItem {dir : Directory Callback} {entry : LogEntry}
    (h : dir.Hears id entry) (item : String) : ∃ c, dir.resolveItem id item.toUTF8 = .ok c := by
  obtain ⟨r, hr⟩ := Option.isSome_iff_exists.1 h.record
  refine ⟨r.subscriber.map (· item), ?_⟩
  unfold Directory.resolveItem
  rw [hr]
  simp only [fromUTF8?_toUTF8]

end

section

variable {d : Discipline} {P : Session → Prop} {go₁ go₂ : Callback → Run Int32}
  {s t : Session} (h : Companions d P go₁ go₂)

omit h in
/-- A call that resolves is answered with a value. -/
theorem dispatchCall_eq_ok {id : EngineId} {name : String} {call : RawCall} {c : Callback}
    {answer : Except BindingFault Int32} (hc : s.directory.resolve id name call = .ok c)
    (hrun : dispatchCall go₁ id name call s = some (answer, t)) : ∃ value, answer = .ok value := by
  unfold dispatchCall reporting at hrun
  obtain ⟨answer', u, hcall, hrest⟩ := Turn.bind_eq_some_iff.1 hrun
  change runCall go₁ s.directory id name call s = _ at hcall
  unfold runCall at hcall
  rw [hc] at hcall
  obtain ⟨value, v, _, ⟨⟩⟩ := Turn.bind_eq_some_iff.1 hcall
  cases hrest
  exact ⟨_, rfl⟩

omit h in
theorem dispatchItem_eq_ok {id : EngineId} {item : ByteArray} {c : Option Callback}
    {answer : Except BindingFault Unit} (hc : s.directory.resolveItem id item = .ok c)
    (hrun : dispatchItem go₁ id item s = some (answer, t)) : answer = .ok () := by
  unfold dispatchItem reporting at hrun
  obtain ⟨answer', u, hitem, hrest⟩ := Turn.bind_eq_some_iff.1 hrun
  change runItem go₁ s.directory id item s = _ at hitem
  unfold runItem at hitem
  rw [hc] at hitem
  cases c with
  | none =>
    cases hitem
    cases hrest
    rfl
  | some c =>
    obtain ⟨value, v, _, ⟨⟩⟩ := Turn.bind_eq_some_iff.1 hitem
    cases hrest
    rfl

omit h in
/-- A call that goes into the trace is heard. -/
theorem recordCall_eq_ok {plan : Plan} (hplan : plan.Bridged s.directory) {trace trace' : Trace}
    {name : String} {args : List Int64} {result : Option Int32} {shown : Except BindingFault Unit}
    (hrun : recordCall (sessionHost go₁) plan trace name args result s = some ((shown, trace'), t)) :
    shown = .ok () := by
  unfold recordCall at hrun
  cases hlistener : plan.listener with
  | some entry =>
    rw [hlistener] at hrun
    obtain ⟨answer, u, hdeliver, ⟨⟩⟩ := Turn.bind_eq_some_iff.1 hrun
    have hhears := hplan.listener entry hlistener
    rw [hhears.entry] at hdeliver
    obtain ⟨c, hc⟩ := hhears.resolveItem (HostCall.json _)
    exact dispatchItem_eq_ok hc hdeliver
  | none =>
    rw [hlistener] at hrun
    cases hrun
    rfl

include h

/-- A call of a bound import is answered with results of the declared types. -/
theorem serve_eq_ok (hs : P s) {plan : Plan} (hplan : plan.Bridged s.directory) {name : String}
    {b : Binding} (hb : plan.bindings[name]? = some b) {args : List Guest.Value}
    (hargs : Guest.typesOf args = b.shape.funcType.params) {trace trace' : Trace}
    {answer : Except BindingFault (List Guest.Value)}
    (hrun : serve (sessionHost go₁) plan name b args trace s = some ((answer, trace'), t)) :
    ∃ results, answer = .ok results ∧ Guest.typesOf results = b.shape.funcType.results := by
  have hserves := hplan.bindings name b hb
  obtain ⟨c, hc⟩ := hserves.resolve hargs
  unfold serve at hrun
  obtain ⟨entered, u, henter, hrest⟩ := Turn.bind_eq_some_iff.1 hrun
  obtain ⟨-, js, hcourse⟩ := enter_proceeds h hs _ _ _ _ _ _ henter
  have henter : dispatchCall go₁ plan.engine name (marshal plan.engine b.entry.path args) s =
      some (entered, u) := by
    rw [hserves.entry] at henter ⊢
    exact henter
  obtain ⟨value, rfl⟩ := dispatchCall_eq_ok hc henter
  obtain ⟨⟨shown, trace''⟩, v, hrecord, ⟨⟩⟩ := Turn.bind_eq_some_iff.1 hrest
  obtain rfl := recordCall_eq_ok (hplan.grow hcourse.directory_grows) hrecord
  refine ⟨_, rfl, ?_⟩
  rw [hserves.entry]
  cases b.shape <;> rfl

/-- A call of an import halts the guest, or is answered with results of the
declared types. -/
theorem serveImport_unfaulted (hs : P s) {plan : Plan} (hplan : plan.Bridged s.directory)
    {linked : List Linked} {index : Nat} {l : Linked} (hl : linked[index]? = some l)
    {config : TracerConfig} (hmade : l.MadeFrom config plan.bindings) {args : List Guest.Value}
    (hargs : Guest.typesOf args = l.type.params) {trace trace' : Trace}
    {answer : Except Stopped (List Guest.Value)}
    (hserve : serveImport (sessionHost go₁) plan linked index args trace s =
      some ((answer, trace'), t)) :
    (∃ halt, answer = .error (.halted halt)) ∨
      ∃ results, answer = .ok results ∧ Guest.typesOf results = l.type.results := by
  unfold serveImport at hserve
  rw [hl] at hserve
  dsimp only at hserve
  cases hmade with
  | halting =>
    cases hserve
    exact .inl ⟨_, rfl⟩
  | bound hb =>
    obtain ⟨⟨served, trace''⟩, v, hserved, ⟨⟩⟩ := Turn.bind_eq_some_iff.1 hserve
    obtain ⟨results, rfl, hresults⟩ := serve_eq_ok h hs hplan hb hargs hserved
    exact .inr ⟨results, rfl, hresults⟩

/-- No call of a guest is answered with a fault, and a guest that has returned can
be entered again. -/
theorem runGuest_unfaulted {m : Guest.Module} (hm : m.flaw? = none) {env : Guest.Env}
    (henv : env.RunsIn m) {plan : Plan} {linked : List Linked} {config : TracerConfig}
    (hlink : link config plan.bindings m = .ok linked) {budget : Nat} {x : Guest.Step}
    {trace : Trace} {stage : Stage} (hs : P s) (hplan : plan.Bridged s.directory)
    (hx : Guest.StepTyped m x)
    (hrun : runGuest (sessionHost go₁) plan env linked budget x trace s = some (stage, t)) :
    (∀ cause, stage.why ≠ .faulted cause) ∧
      (stage.why = .returned → Guest.MachineTyped m stage.machine) := by
  induction budget generalizing s x trace with
  | zero => cases hrun
  | succ budget ih =>
    cases x with
    | next machine => exact ih hs hplan (Guest.step_typed hm henv hx) hrun
    | ended how machine =>
      cases hrun
      cases how with
      | returned => exact ⟨fun _ hcause => (nomatch hcause), fun _ => hx rfl⟩
      | trapped | outOfFuel => exact ⟨fun _ hcause => (nomatch hcause), fun h => nomatch h⟩
    | host index args machine =>
      obtain ⟨type, htype, hargs, hresume⟩ := hx
      rw [importedFuncs_of_link hlink, List.getElem?_map, Option.map_eq_some_iff] at htype
      obtain ⟨l, hl, rfl⟩ := htype
      have hlinked := (link_eq_ok hlink).1 l (List.mem_of_getElem? hl)
      rcases runGuest_host_eq_some_iff.1 hrun with
        ⟨why, trace', hserve, rfl⟩ | ⟨results, trace', u, hserve, hrun⟩
      · rcases serveImport_unfaulted h hs hplan hl hlinked hargs hserve with ⟨halt, ⟨⟩⟩ | ⟨_, ⟨⟩, _⟩
        exact ⟨nofun, nofun⟩
      · obtain ⟨-, js, hcourse⟩ := serveImport_proceeds h hs _ _ _ _ _ _ _ hserve
        rcases serveImport_unfaulted h hs hplan hl hlinked hargs hserve with
          ⟨_, ⟨⟩⟩ | ⟨_, ⟨⟩, hresults⟩
        have hnext : Guest.StepTyped m (.next (machine.resume results)) := hresume results hresults
        exact ih (h.stable hcourse hs) (hplan.grow hcourse.directory_grows) hnext hrun

end

section

variable {d : Discipline} {P : Session → Prop} {go₁ go₂ : Callback → Run Int32}
  {s t : Session} (h : Companions d P go₁ go₂)

include h

theorem instantiate_unfaulted {plan : Plan} (hm : plan.module.flaw? = none) {linked : List Linked}
    {config : TracerConfig} (hlink : link config plan.bindings plan.module = .ok linked)
    {budget : Nat} {stage : Stage} (hs : P s) (hplan : plan.Bridged s.directory)
    (hrun : instantiate budget (sessionHost go₁) config plan linked s = some (stage, t)) :
    (∀ cause, stage.why ≠ .faulted cause) ∧
      (stage.why = .returned → Guest.MachineTyped plan.module stage.machine) := by
  rcases instantiate_eq_some_iff.1 hrun with ⟨_, rfl, _⟩ |
    ⟨memory, _, ⟨_, rfl, _⟩ | ⟨f, hf, hrun⟩⟩
  · exact ⟨fun _ hcause => (nomatch hcause), fun h => nomatch h⟩
  · exact ⟨fun _ hcause => (nomatch hcause), fun _ => Guest.machineTyped_initial rfl rfl rfl⟩
  · refine runGuest_unfaulted h hm Guest.Module.env_runsIn hlink hs hplan ?_ hrun
    exact Guest.enter_entry_typed hm Guest.Module.env_runsIn (funcType?_start hm hf)
      (Guest.machineTyped_initial rfl rfl rfl)

/-- Carrying out a bridged plan does not end in a fault. -/
theorem carryOut_unfaulted {plan : Plan} (hm : plan.module.flaw? = none) {config : TracerConfig}
    {budget : Nat} {r : Except EngineError Execution} (hs : P s)
    (hplan : plan.Bridged s.directory)
    (hrun : (carryOut budget (sessionHost go₁) config plan).run s = some (r, t)) :
    ∀ cause, r ≠ .error (.fault cause) := by
  intro cause heq
  subst heq
  cases carryOut_eq_some_iff.1 hrun with
  | unlinked hlink =>
    obtain ⟨_, ⟨⟩⟩ := link_error hlink
  | faultedEarly hlink hstart hfault =>
    exact (instantiate_unfaulted h hm hlink hs hplan hstart).1 cause hfault
  | unready hlink hstart hreturned hready =>
    obtain ⟨⟨_, _, _, ⟨⟩⟩, _⟩ := prepareMemory_error hready
  | @faulted linked stage final ready f _ u _ hlink hstart hreturned hready hentry hrun hfault =>
    obtain ⟨machine, trace⟩ := ready
    obtain ⟨_, rfl, _, _⟩ := prepareMemory_eq_ok hready
    obtain ⟨-, js, hcourse⟩ := instantiate_proceeds h hs (Nat.le_refl _) config plan linked _ _ hstart
    have htyped := (instantiate_unfaulted h hm hlink hs hplan hstart).2 hreturned
    refine (runGuest_unfaulted h hm Guest.Module.env_runsIn hlink (h.stable hcourse hs)
      (hplan.grow hcourse.directory_grows) ?_ hrun).1 cause hfault
    exact Guest.enter_entry_typed hm Guest.Module.env_runsIn (funcType?_entry hentry) htyped

theorem initialMemory_unfaulted {plan : Plan} (hm : plan.module.flaw? = none)
    {config : TracerConfig} {budget : Nat} {r : Except EngineError ByteArray} (hs : P s)
    (hplan : plan.Bridged s.directory)
    (hrun : (initialMemory budget (sessionHost go₁) config plan).run s = some (r, t)) :
    ∀ cause, r ≠ .error (.fault cause) := by
  intro cause heq
  subst heq
  rcases initialMemory_eq_some hrun with ⟨e, hlink, ⟨⟩, _⟩ |
    ⟨linked, stage, hlink, hstart, ⟨_, hfault, ⟨⟩⟩ | ⟨_, _, ⟨⟩⟩ | ⟨_, ⟨⟩⟩⟩
  · obtain ⟨_, ⟨⟩⟩ := link_error hlink
  · exact (instantiate_unfaulted h hm hlink hs hplan hstart).1 cause hfault

end

end EngineHost
