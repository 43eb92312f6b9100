import EngineHost.Proofs.Session.Proceeding
/-
Every operation of a session, performed at any depth, takes a course.  With
more budget or more depth the answer stays the same.
-/
namespace EngineHost

/-- A patch of a scripted engine changes its memory only. -/
theorem Scripted.patch_eq_ok {e e' : Scripted} {id : EngineId} {offset length : UInt32}
    {data : ByteArray} (h : e.patch id offset length data = .ok e') :
    ∃ f : ScriptedSlot → ScriptedSlot, e' = e.adjust id f ∧
      ∀ slot, (f slot).bindings = slot.bindings ∧ (f slot).listener = slot.listener := by
  unfold patch at h
  obtain ⟨s, hs, h⟩ := bind_eq_ok_iff.1 h
  obtain ⟨_, _, h⟩ := bind_eq_ok_iff.1 h
  obtain ⟨⟨start, stop⟩, _, ⟨⟩⟩ := bind_eq_ok_iff.1 h
  refine ⟨fun slot => { slot with memory := Bytes.overlay s.memory start data }, ?_,
    fun slot => ⟨rfl, rfl⟩⟩
  unfold slot at hs
  split at hs
  case h_1 found hfound =>
    cases hs
    simp only [adjust, hfound]
  case h_2 => cases hs

section

variable {d : Discipline} {P : Session → Prop} {go₁ go₂ : Callback → Run Int32} {s : Session}
  {α β : Type} (h : Companions d P go₁ go₂) (hs : P s)

include h hs

/-! ## Foreign engines -/

section

variable {budget₁ budget₂ : Nat} (hbudget : budget₁ ≤ budget₂) (index : Nat) (id : EngineId)

include hbudget

theorem foreign_compute_proceeds :
    Proceeds d s (Foreign.compute budget₁ (sessionHost go₁) (foreignAt index) id).run
      (Foreign.compute budget₂ (sessionHost go₂) (foreignAt index) id).run := by
  unfold Foreign.compute
  refine Follows.lift_step rfl ?_
  cases (foreignAt index).get s with
  | scripted e | pinned e => exact Proceeds.pure
  | tracing t => exact tracer_compute_proceeds h hs hbudget index id

/-- What a tracing engine shows is its image. -/
theorem foreign_snapshot_follows :
    Follows s (Foreign.snapshot budget₁ (sessionHost go₁) (foreignAt index) id).run
      (Foreign.snapshot budget₂ (sessionHost go₂) (foreignAt index) id).run
      fun r t => (∃ js, Course d s js t) ∧ ∀ memory, r = .ok memory →
        (∃ tracer, s.tracerAt? index = some tracer) →
        ∃ slot, t.slotAt? ⟨index, id⟩ = some slot ∧ slot.image = some memory := by
  unfold Foreign.snapshot
  refine Follows.lift_step rfl ?_
  cases hf : (foreignAt index).get s with
  | scripted e | pinned e =>
    refine Follows.pure ⟨⟨[], .nil s⟩, ?_⟩
    intro memory _ hex
    obtain ⟨tracer, htracer⟩ := hex
    rw [Session.tracerAt?_eq_some_iff.1 htracer] at hf
    cases hf
  | tracing t =>
    exact (tracer_snapshot_follows h hs hbudget index id).weaken
      fun _ _ hp => ⟨hp.1, fun memory hr _ => hp.2 memory hr⟩

/-- A patch that a tracing engine accepts is recorded. -/
theorem foreign_patch_follows (offset length : UInt32) (data : ByteArray) :
    Follows s (Foreign.patch budget₁ (sessionHost go₁) (foreignAt index) id offset length data).run
      (Foreign.patch budget₂ (sessionHost go₂) (foreignAt index) id offset length data).run
      fun r t => (∃ js, Course d s js t) ∧ (r = .ok () →
        (∃ tracer, s.tracerAt? index = some tracer) → ∃ p js,
          Patch.make offset length data = .ok p ∧
            Course d s (js ++ [(⟨index, id⟩, .recorded p)]) t) := by
  unfold Foreign.patch
  refine Follows.lift_step rfl ?_
  cases hf : (foreignAt index).get s with
  | tracing t =>
    exact (tracer_patch_follows h hs hbudget index id offset length data).weaken
      fun _ _ hp => ⟨hp.1, fun hr _ => hp.2 hr⟩
  | scripted e | pinned e =>
    refine Follows.ofExcept_bind (fun _ _ => ⟨⟨[], .nil s⟩, nofun⟩) fun e' he' => ?_
    obtain ⟨f, rfl, hkeeps⟩ := Scripted.patch_eq_ok he'
    have hscripted := congrArg Foreign.scripted? hf
    have hchange := Change.scripted (d := d) index e id f hscripted hkeeps
    rw [hf] at hchange
    refine Follows.self rfl ⟨⟨_, .one hchange⟩, ?_⟩
    intro _ hex
    obtain ⟨tracer, htracer⟩ := hex
    rw [Session.tracerAt?_eq_some_iff.1 htracer] at hf
    cases hf

end

end

/-! ## Handles -/

namespace Directory

variable {dir : Directory Callback} {id : EngineId}

theorem ext_lookup {a b : Directory Callback} (hlookup : ∀ id, a.lookup id = b.lookup id) :
    a = b := by
  cases a
  cases b
  exact congrArg _ (Std.ExtTreeMap.ext_getElem? fun {id} => hlookup id)

/-- A registration that is taken back has changed nothing. -/
theorem adjust_register_discard {r : EngineRecord Callback} {name : String}
    {f : HostFunction Callback}
    (h : ((dir.lookup id).getD { id }).register name f = .ok r) :
    ((dir.adjust id fun _ => r).adjust id (·.discard name)) = dir := by
  apply ext_lookup
  intro k
  rw [lookup_adjust, lookup_adjust]
  split
  case isTrue hk =>
    subst hk
    cases hlookup : dir.lookup id with
    | none => rfl
    | some record =>
      rw [hlookup, Option.getD_some] at h
      rw [Option.map_some, Option.map_some, EngineRecord.discard_register h]
  case isFalse => rfl

/-- Of two changes of the subscriber the second one counts. -/
theorem adjust_subscriber (a b : Option (String → Callback)) :
    ((dir.adjust id ({ · with subscriber := a })).adjust id ({ · with subscriber := b })) =
      dir.adjust id ({ · with subscriber := b }) := by
  apply ext_lookup
  intro k
  simp only [lookup_adjust]
  split
  case isTrue => cases dir.lookup k <;> rfl
  case isFalse => rfl

end Directory

section

variable {d : Discipline} {s : Session} {α β : Type}

theorem changeDirectory_eq (f : Directory Callback → Directory Callback) :
    changeDirectory f s = some ((), { s with directory := f s.directory }) := rfl

theorem createIn_proceeds (index : Nat) : Proceeds d s (createIn index) (createIn index) :=
  Proceeds.change rfl (.created index _ _ _ rfl)

/-- What is asked of a foreign engine that is not there does nothing. -/
theorem withForeign_follows {Q : Answer → Session → Prop} {index : Nat}
    {f g : Foreign → Run Answer} (hnone : Q .noSuchName s)
    (hfg : ∀ foreign, (foreignAt index).get s = foreign → Follows s (f foreign) (g foreign) Q) :
    Follows s (withForeign index f) (withForeign index g) Q := by
  unfold withForeign
  refine Follows.step rfl ?_
  cases hforeign : s.foreigns[index]? with
  | none => exact Follows.pure hnone
  | some foreign =>
    refine hfg foreign ?_
    show s.foreigns.getD index default = foreign
    rw [Std.ExtTreeMap.getD_eq_getD_getElem?, hforeign, Option.getD_some]

/-- What is asked of a handle that is not there does nothing. -/
theorem withHandle_follows {Q : Answer → Session → Prop} {name : String}
    {f g : Handle → Run Answer} (hnone : Q .noSuchName s)
    (hfg : ∀ handle, s.handles[name]? = some handle → Follows s (f handle) (g handle) Q) :
    Follows s (withHandle name f) (withHandle name g) Q := by
  unfold withHandle
  refine Follows.step rfl ?_
  cases hhandle : s.handles[name]? with
  | none => exact Follows.pure hnone
  | some handle => exact hfg handle hhandle

/-- A handle that is made is on an engine with a record. -/
theorem attach_follows (index : Nat) (id : EngineId) :
    Follows s (Handle.attach index id).run (Handle.attach index id).run
      fun r t => (∃ js, Course d s js t) ∧
        ∀ handle, r = .ok handle → (t.directory.lookup handle.id).isSome := by
  unfold Handle.attach
  refine Follows.lift_step rfl ?_
  split
  case isTrue hcontains =>
    refine Follows.pure ⟨⟨[], .nil s⟩, ?_⟩
    intro _ heq
    cases heq
    rwa [← Directory.contains_eq_isSome]
  case isFalse => exact Follows.pure ⟨⟨[], .nil s⟩, fun _ h => nomatch h⟩

/-- An engine's errors come out as the host's. -/
theorem ofEngine_follows {a b : Attempt Session α} {Q : Except HostError α → Session → Prop}
    (h : Follows s a.run b.run fun r t => Q (r.mapError HostError.ofEngine) t) :
    Follows s (Hosted.ofEngine a).run (Hosted.ofEngine b).run Q :=
  Follows.bind h fun _ _ hq => .pure hq

theorem Proceeds.ofEngine {a b : Attempt Session α} (h : Proceeds d s a.run b.run) :
    Proceeds d s (Hosted.ofEngine a).run (Hosted.ofEngine b).run :=
  ofEngine_follows h

theorem Proceeds.hosted_bind {r : Except EngineError α} {f g : α → Hosted β}
    (hf : ∀ x, r = .ok x → Proceeds d s (f x).run (g x).run) :
    Proceeds d s (Hosted.ofExcept r >>= f).run (Hosted.ofExcept r >>= g).run := by
  cases r with
  | error e => exact .pure
  | ok x => exact hf x rfl

theorem install_proceeds (handle : Handle) (binary : Guest.Binary) :
    Proceeds d s (handle.install binary).run (handle.install binary).run := by
  unfold Handle.install
  refine Follows.lift_step rfl ?_
  refine Proceeds.hosted_bind fun f hf => ?_
  exact Proceeds.change rfl (.installed handle.foreign handle.id binary f hf)

theorem unsubscribe_proceeds (handle : Handle) :
    Proceeds d s handle.unsubscribe.run handle.unsubscribe.run :=
  Proceeds.change rfl (.unsubscribed handle.id)

end

section

variable {d : Discipline} {P : Session → Prop} {go₁ go₂ : Callback → Run Int32} {s : Session}
  {α β : Type} (h : Companions d P go₁ go₂) (hs : P s)

include h hs

theorem fail_proceeds (cause : BindingFault) :
    Proceeds d s (Handle.fail go₁ cause : Hosted α).run
      (Handle.fail go₂ cause : Hosted α).run := by
  unfold Handle.fail
  exact (raise_proceeds h hs cause).lift_bind fun _ _ _ _ => .pure

/-- A handle that is made is on an engine with a record. -/
theorem create_follows (index : Nat) :
    Follows s (Handle.create go₁ index).run (Handle.create go₂ index).run
      fun r t => (∃ js, Course d s js t) ∧
        ∀ handle, r = .ok handle → (t.directory.lookup handle.id).isSome := by
  unfold Handle.create
  refine Follows.lift_bind (createIn_proceeds (d := d) index) ?_
  intro id t hreached
  obtain ⟨js, hcourse⟩ := hreached
  refine Follows.lift_step rfl ?_
  cases hinsert : t.directory.insert? { id } with
  | some directory =>
    have hfiled : Change d t _ _ := .filed id directory hinsert
    refine Follows.self rfl ⟨⟨_, hcourse.trans (.one hfiled)⟩, ?_⟩
    intro _ heq
    cases heq
    show (directory.lookup id).isSome = true
    rw [Directory.lookup_insert? hinsert, if_pos rfl, Option.isSome_some]
  | none =>
    refine Follows.lift_bind (raise_proceeds h (h.stable hcourse hs) _) ?_
    intro _ u hreached
    obtain ⟨js', hraise⟩ := hreached
    exact Follows.pure ⟨⟨_, hcourse.trans hraise⟩, fun _ h => nomatch h⟩

theorem register_proceeds {name : String} {handle : Handle} (hhandle : s.handles[name]? = some handle)
    (functionName : String) (f : HostFunction Callback) (hkept : ∀ c, f.Gives c → d.callback c) :
    Proceeds d s (handle.register go₁ functionName f).run
      (handle.register go₂ functionName f).run := by
  unfold Handle.register
  refine Follows.lift_step rfl ?_
  cases hregister : (handle.record s).register functionName f with
  | error cause => exact fail_proceeds h hs cause
  | ok record =>
    refine Follows.lift_step (changeDirectory_eq _) ?_
    refine Follows.lift_step rfl ?_
    split
    case h_1 g hbind =>
      have hchange : Change d s _ _ :=
        .registered name functionName handle f record g hkept hhandle hregister hbind
      exact Follows.self rfl ⟨_, .one hchange⟩
    case h_2 =>
      refine Follows.lift_step (changeDirectory_eq _) ?_
      rw [Directory.adjust_register_discard hregister]
      exact fail_proceeds h hs _

theorem subscribe_proceeds {name : String} {handle : Handle}
    (hhandle : s.handles[name]? = some handle) (subscriber : String → Callback)
    (hkept : ∀ item, d.callback (subscriber item)) :
    Proceeds d s (handle.subscribe go₁ subscriber).run (handle.subscribe go₂ subscriber).run := by
  unfold Handle.subscribe
  refine Follows.lift_step (changeDirectory_eq _) ?_
  refine Follows.lift_step rfl ?_
  split
  case h_1 g hlisten =>
    have hchange : Change d s _ _ := .subscribed name handle subscriber g hkept hhandle hlisten
    exact Follows.self rfl ⟨_, .one hchange⟩
  case h_2 =>
    refine Follows.lift_step (changeDirectory_eq _) ?_
    rw [Directory.adjust_subscriber]
    have hcourse := Course.one (Change.unsubscribed (d := d) (s := s) handle.id)
    refine (fail_proceeds h (h.stable hcourse hs) _).weaken ?_
    intro _ _ hreached
    obtain ⟨js, hfail⟩ := hreached
    exact ⟨_, hcourse.trans hfail⟩

section

variable {budget₁ budget₂ : Nat} (hbudget : budget₁ ≤ budget₂) (handle : Handle)

include hbudget

theorem compute_proceeds :
    Proceeds d s (handle.compute budget₁ go₁).run (handle.compute budget₂ go₂).run := by
  unfold Handle.compute
  refine Proceeds.run_bind (.ofEngine (foreign_compute_proceeds h hs hbudget _ _)) ?_
  exact fun _ _ _ _ => .pure

/-- What a tracing engine shows is its image. -/
theorem memory_follows :
    Follows s (handle.memory budget₁ go₁).run (handle.memory budget₂ go₂).run
      fun r t => (∃ js, Course d s js t) ∧ ∀ memory, r = .ok memory →
        (∃ tracer, s.tracerAt? handle.foreign = some tracer) →
        ∃ slot, t.slotAt? ⟨handle.foreign, handle.id⟩ = some slot ∧ slot.image = some memory := by
  have hsnapshot := foreign_snapshot_follows h hs hbudget handle.foreign handle.id
  refine ofEngine_follows (hsnapshot.weaken fun r t hp => ?_)
  exact ⟨hp.1, fun memory hr => hp.2 memory (mapError_eq_ok_iff.1 hr)⟩

theorem read_proceeds (offset length : UInt32) :
    Proceeds d s (handle.read budget₁ go₁ offset length).run
      (handle.read budget₂ go₂ offset length).run := by
  unfold Handle.read
  have hmemory : Proceeds d s _ _ := (memory_follows h hs hbudget handle).weaken fun _ _ hp => hp.1
  exact hmemory.run_bind fun _ _ _ _ => .pure

/-- A patch that a tracing engine accepts is recorded. -/
theorem patch_follows (offset length : UInt32) (data : ByteArray) :
    Follows s (handle.patch budget₁ go₁ offset length data).run
      (handle.patch budget₂ go₂ offset length data).run
      fun r t => (∃ js, Course d s js t) ∧ (r = .ok () →
        (∃ tracer, s.tracerAt? handle.foreign = some tracer) → ∃ p js,
          Patch.make offset length data = .ok p ∧
            Course d s (js ++ [(⟨handle.foreign, handle.id⟩, .recorded p)]) t) := by
  unfold Handle.patch
  cases checkLength length data with
  | error e => exact Follows.pure ⟨⟨[], .nil s⟩, nofun⟩
  | ok _ =>
    refine ofEngine_follows
      ((foreign_patch_follows h hs hbudget _ _ offset length data).weaken fun r t hp => ?_)
    exact ⟨hp.1, fun hr => hp.2 (mapError_eq_ok_iff.1 hr)⟩

theorem executeIn_proceeds (index : Nat) (binary : Guest.Binary) :
    Proceeds d s (executeIn budget₁ go₁ index binary).run
      (executeIn budget₂ go₂ index binary).run := by
  unfold executeIn
  refine (createIn_proceeds index).lift_bind fun id js t hcourse => ?_
  refine Follows.lift_step rfl ?_
  refine Proceeds.ofExcept_bind fun f hf => ?_
  have hchange : Change d t _ _ := .installed index id binary f hf
  refine (Proceeds.change rfl hchange).lift_bind fun _ js' u hcourse' => ?_
  exact foreign_compute_proceeds h (h.stable hcourse' (h.stable hcourse hs)) hbudget _ _

end

/-! ## Operations -/

omit h hs in
theorem answerHosted_proceeds {a b : Hosted α} (hab : Proceeds d s a.run b.run)
    (answer : α → Answer) : Proceeds d s (answerHosted a answer) (answerHosted b answer) :=
  hab.bind fun r _ _ _ => by cases r <;> exact .pure

omit h hs in
theorem answerAttempt_proceeds {a b : Attempt Session α} (hab : Proceeds d s a.run b.run)
    (answer : α → Answer) : Proceeds d s (answerAttempt a answer) (answerAttempt b answer) :=
  hab.bind fun r _ _ _ => by cases r <;> exact .pure

omit h hs in
theorem withForeign_proceeds {index : Nat} {f g : Foreign → Run Answer}
    (hfg : ∀ foreign, (foreignAt index).get s = foreign → Proceeds d s (f foreign) (g foreign)) :
    Proceeds d s (withForeign index f) (withForeign index g) :=
  withForeign_follows ⟨[], .nil s⟩ hfg

omit h hs in
theorem withHandle_proceeds {name : String} {f g : Handle → Run Answer}
    (hfg : ∀ handle, s.handles[name]? = some handle → Proceeds d s (f handle) (g handle)) :
    Proceeds d s (withHandle name f) (withHandle name g) :=
  withHandle_follows ⟨[], .nil s⟩ hfg

omit h hs in
/-- Keep a handle under a name, once it is made. -/
theorem keepHandle_proceeds {a b : Hosted Handle} (name : String)
    (hab : Follows s a.run b.run fun r t => (∃ js, Course d s js t) ∧
      ∀ handle, r = .ok handle → (t.directory.lookup handle.id).isSome) :
    Proceeds d s (do let handle ← a; keepHandle name handle; return handle : Hosted Handle).run
      (do let handle ← b; keepHandle name handle; return handle : Hosted Handle).run := by
  refine Follows.run_bind hab (fun _ _ hp => hp.1) ?_
  intro handle t h
  obtain ⟨⟨js, hcourse⟩, hfiled⟩ := h
  have hnamed : Change d t _ _ := .named name handle (.inl (hfiled handle rfl))
  exact Follows.self rfl ⟨_, hcourse.trans (.one hnamed)⟩

section

variable {budget₁ budget₂ : Nat} (hbudget : budget₁ ≤ budget₂)

include hbudget

theorem handleOp_proceeds (name : String) {op : HandleOp Callback} (hop : d.op (.handle name op)) :
    Proceeds d s (handleOp budget₁ go₁ name op) (handleOp budget₂ go₂ name op) := by
  cases op with
  | create index =>
    exact withForeign_proceeds fun _ _ =>
      answerHosted_proceeds (keepHandle_proceeds name (create_follows h hs index)) _
  | attach index id =>
    exact withForeign_proceeds fun _ _ =>
      answerHosted_proceeds (keepHandle_proceeds name (attach_follows index id)) _
  | copy target =>
    refine withHandle_proceeds fun handle hhandle => ?_
    have hchange : Change d s _ _ := .named target handle (.inr ⟨name, hhandle⟩)
    exact (Proceeds.change rfl hchange).bind fun _ _ _ _ => .pure
  | install binary =>
    exact withHandle_proceeds fun handle _ => answerHosted_proceeds (install_proceeds handle binary) _
  | compute =>
    exact withHandle_proceeds fun handle _ =>
      answerHosted_proceeds (compute_proceeds h hs hbudget handle) _
  | memory =>
    exact withHandle_proceeds fun handle _ =>
      answerHosted_proceeds ((memory_follows h hs hbudget handle).weaken fun _ _ hp => hp.1) _
  | read offset length =>
    exact withHandle_proceeds fun handle _ =>
      answerHosted_proceeds (read_proceeds h hs hbudget handle offset length) _
  | patch offset length data =>
    exact withHandle_proceeds fun handle _ =>
      answerHosted_proceeds
        ((patch_follows h hs hbudget handle offset length data).weaken fun _ _ hp => hp.1) _
  | register functionName f =>
    exact withHandle_proceeds fun handle hhandle =>
      answerHosted_proceeds (register_proceeds h hs hhandle functionName f fun c hc =>
        d.brings hop (.register hc)) _
  | subscribe subscriber =>
    exact withHandle_proceeds fun handle hhandle =>
      answerHosted_proceeds (subscribe_proceeds h hs hhandle subscriber fun item =>
        d.brings hop (.subscribe item)) _
  | unsubscribe =>
    exact withHandle_proceeds fun handle _ => answerHosted_proceeds (unsubscribe_proceeds handle) _
  | functions => exact withHandle_proceeds fun _ _ => Follows.step rfl Proceeds.pure
  | debug => exact withHandle_proceeds fun _ _ => Follows.step rfl Proceeds.pure

theorem foreignOp_proceeds (index : Nat) {op : ForeignOp} (hop : d.op (.foreign index op)) :
    Proceeds d s (foreignOp budget₁ go₁ index op) (foreignOp budget₂ go₂ index op) := by
  unfold foreignOp
  refine withForeign_proceeds fun f hf => ?_
  cases op with
  | create => exact (createIn_proceeds index).bind fun _ _ _ _ => .pure
  | install id binary =>
    refine answerAttempt_proceeds (Proceeds.ofExcept_bind fun g hg => ?_) _
    subst hf
    exact Proceeds.change rfl (.installed index id binary g hg)
  | compute id => exact answerAttempt_proceeds (foreign_compute_proceeds h hs hbudget index id) _
  | memory id =>
    exact answerAttempt_proceeds
      ((foreign_snapshot_follows h hs hbudget index id).weaken fun _ _ hp => hp.1) _
  | patch id offset length data =>
    exact answerAttempt_proceeds
      ((foreign_patch_follows h hs hbudget index id offset length data).weaken fun _ _ hp => hp.1) _
  | execute binary => exact answerAttempt_proceeds (executeIn_proceeds h hs hbudget index binary) _
  | bind id name binding =>
    dsimp only
    split
    case h_1 g hbind =>
      subst hf
      exact (Proceeds.change rfl (.bound index id name binding g hop hbind)).bind
        fun _ _ _ _ => .pure
    case h_2 => exact .pure
  | listen id entry =>
    dsimp only
    split
    case h_1 g hlisten =>
      subst hf
      exact (Proceeds.change rfl (.listened index id entry g hop hlisten)).bind
        fun _ _ _ _ => .pure
    case h_2 => exact .pure
  | config => exact .pure

end

theorem scriptedOp_proceeds (index : Nat) (op : ScriptedOp) :
    Proceeds d s (scriptedOp go₁ index op) (scriptedOp go₂ index op) := by
  unfold scriptedOp
  refine withForeign_proceeds fun f hf => ?_
  subst hf
  split
  case h_1 => exact .pure
  case h_2 e he =>
    cases op with
    | setOutput id payload =>
      have hchange : Change d s _ _ := .scripted index e id ({ · with output := payload }) he
        fun _ => ⟨rfl, rfl⟩
      exact (Proceeds.change rfl hchange).bind fun _ _ _ _ => .pure
    | refuse id =>
      have hchange : Change d s _ _ := .scripted index e id ({ · with refusing := true }) he
        fun _ => ⟨rfl, rfl⟩
      exact (Proceeds.change rfl hchange).bind fun _ _ _ _ => .pure
    | binary id | imports id | armed id => exact .pure
    | call id name call =>
      refine Proceeds.bind ?_ fun _ _ _ _ => .pure
      unfold Scripted.call
      split
      case h_1 => exact .pure
      case h_2 entry _ => exact enter_proceeds h hs entry id name _
    | emit id item =>
      refine Proceeds.bind ?_ fun _ _ _ _ => .pure
      unfold Scripted.emit
      split
      case h_1 entry _ => exact deliver_proceeds h hs entry id item
      case h_2 => exact .pure

end

/-! ## The desk -/

namespace Desk.Kept

variable {d : Discipline} {desk : Desk} {name : String}

theorem record {r : EngineRecord Callback} (h : desk.Kept d) (hr : desk.record? name = some r) :
    r.Kept d := by
  unfold Desk.record? at hr
  split at hr
  case h_1 record hdraft =>
    cases hr
    exact h.drafts name _ hdraft
  case h_2 id _ => exact h.directory id r hr
  case h_3 => cases hr

theorem make {r : EngineRecord Callback} (h : desk.Kept d) (hr : r.Kept d) :
    (desk.make name r).Kept d := by
  refine ⟨h.directory, fun k record hrecord => ?_⟩
  change (desk.drafts.insert name _)[k]? = _ at hrecord
  rw [Std.ExtTreeMap.getElem?_insert] at hrecord
  split at hrecord
  · cases hrecord
    exact hr
  · exact h.drafts k record hrecord

theorem adjust {f : EngineRecord Callback → EngineRecord Callback} (h : desk.Kept d)
    (hf : ∀ r, r.Kept d → (f r).Kept d) : (desk.adjust name f).Kept d := by
  unfold Desk.adjust
  split
  case h_1 record hdraft => exact h.make (hf record (h.drafts name _ hdraft))
  case h_2 id _ => exact ⟨h.directory.adjust hf, h.drafts⟩
  case h_3 => exact h

theorem file {desk' : Desk} (h : desk.Kept d) (hfile : desk.file? name = some desk') :
    desk'.Kept d := by
  unfold Desk.file? at hfile
  obtain ⟨record, hrecord, hfile⟩ := Option.bind_eq_some_iff.1 hfile
  obtain ⟨directory, hinsert, ⟨⟩⟩ := Option.bind_eq_some_iff.1 hfile
  refine ⟨h.directory.insert (h.record hrecord) hinsert, fun k r hr => ?_⟩
  change (desk.drafts.insert name _)[k]? = _ at hr
  rw [Std.ExtTreeMap.getElem?_insert] at hr
  split at hr
  · cases hr
  · exact h.drafts k r hr

end Desk.Kept

section

variable {d : Discipline} {P : Session → Prop} {go₁ go₂ : Callback → Run Int32} {s : Session}

/-- A change of the desk that keeps the discipline. -/
theorem changeDesk_proceeds {f : Desk → Desk} (hf : (f s.desk).Kept d) :
    Proceeds d s (changeDesk f) (changeDesk f) := Proceeds.change rfl (.desk (f s.desk) hf)

theorem withRecord_proceeds {name : String} {f g : EngineRecord Callback → Run Answer}
    (hfg : ∀ r, s.desk.record? name = some r → Proceeds d s (f r) (g r)) :
    Proceeds d s (withRecord name f) (withRecord name g) := by
  unfold withRecord
  refine Follows.step rfl ?_
  cases hrecord : s.desk.record? name with
  | none => exact Proceeds.pure
  | some r => exact hfg r hrecord

theorem deskOp_proceeds (h : Companions d P go₁ go₂) (hs : P s) {op : DeskOp Callback}
    (hop : d.op (.desk op)) : Proceeds d s (deskOp go₁ op) (deskOp go₂ op) := by
  have hdesk := (h.kept hs).desk
  cases op with
  | lookup id | contains id | size => exact Follows.step rfl Proceeds.pure
  | make name id =>
    refine (changeDesk_proceeds ?_).bind fun _ _ _ _ => .pure
    exact hdesk.make (EngineRecord.kept_empty id)
  | insert name =>
    refine withRecord_proceeds fun _ _ => Follows.step rfl ?_
    split
    case h_1 desk hfile => exact (changeDesk_proceeds (hdesk.file hfile)).bind fun _ _ _ _ => .pure
    case h_2 => exact Proceeds.pure
  | register name functionName f =>
    refine withRecord_proceeds fun r hr => ?_
    split
    case h_1 changed hchanged =>
      refine (changeDesk_proceeds ?_).bind fun _ _ _ _ => .pure
      refine hdesk.adjust fun _ _ => (hdesk.record hr).register (fun c hc => ?_) hchanged
      exact d.brings hop (.deskRegister hc)
    case h_2 => exact .pure
  | function name functionName => exact withRecord_proceeds fun r _ => by split <;> exact .pure
  | names name | debug name => exact withRecord_proceeds fun _ _ => .pure
  | subscribe name subscriber =>
    refine withRecord_proceeds fun _ _ => ?_
    refine (changeDesk_proceeds ?_).bind fun _ _ _ _ => .pure
    refine hdesk.adjust fun r hr => hr.subscribe ?_
    intro _ heq item
    cases heq
    exact d.brings hop (.deskSubscribe item)
  | unsubscribe name =>
    refine withRecord_proceeds fun _ _ => ?_
    refine (changeDesk_proceeds ?_).bind fun _ _ _ _ => .pure
    refine hdesk.adjust fun r hr => hr.subscribe ?_
    intro _ heq
    cases heq
  | dispatch id name call =>
    refine Follows.step rfl (Proceeds.bind ?_ fun _ _ _ _ => .pure)
    exact runCall_proceeds h hs hdesk.directory id name call
  | deliver id item =>
    refine Follows.step rfl (Proceeds.bind ?_ fun _ _ _ _ => .pure)
    exact runItem_proceeds h hs hdesk.directory id item

/-! ## Performing -/

theorem perform_proceeds (h : Companions d P go₁ go₂) (hs : P s) {budget₁ budget₂ : Nat}
    (hbudget : budget₁ ≤ budget₂) {op : Op} (hop : d.op op) :
    Proceeds d s (perform budget₁ go₁ op) (perform budget₂ go₂ op) := by
  cases op with
  | handle name op => exact handleOp_proceeds h hs hbudget name hop
  | foreign index op => exact foreignOp_proceeds h hs hbudget index hop
  | scripted index op => exact scriptedOp_proceeds h hs index op
  | desk op => exact deskOp_proceeds h hs hop
  | executeBinary index binary =>
    have hexecute := executeIn_proceeds h hs hbudget index binary
    refine withForeign_proceeds fun _ _ => answerHosted_proceeds ?_ _
    exact Proceeds.run_bind (.ofEngine hexecute) fun _ _ _ _ => .pure
  | enter id name call => exact (dispatchCall_proceeds h hs id name call).bind fun _ _ _ _ => .pure
  | deliver id item => exact (dispatchItem_proceeds h hs id item).bind fun _ _ _ _ => .pure
  | filed id => exact Follows.step rfl Proceeds.pure
  | setHandler handler =>
    have hchange : Change d s _ _ := .handled (some handler) (by
      intro _ heq cause
      cases heq
      exact d.brings hop (.setHandler cause))
    exact (Proceeds.change rfl hchange).bind fun _ _ _ _ => .pure
  | clearHandler =>
    have hchange : Change d s _ _ := .handled none (by rintro _ ⟨⟩)
    exact (Proceeds.change rfl hchange).bind fun _ _ _ _ => .pure

/-- A callback does what the operations it asks for do. -/
theorem play_proceeds {ask₁ ask₂ : Op → Run Answer}
    (hstable : ∀ {s js t}, Course d s js t → P s → P t)
    (hask : ∀ {op s}, P s → d.op op → Proceeds d s (ask₁ op) (ask₂ op)) {c : Callback}
    (hc : d.callback c) (hs : P s) : Proceeds d s (c.play ask₁ note) (c.play ask₂ note) := by
  induction c generalizing s with
  | done value => exact .pure
  | ask q next ih =>
    obtain ⟨hop, hnext⟩ := d.asks hc
    exact (hask hs hop).bind fun a _ _ hcourse => ih a (hnext a) (hstable hcourse hs)
  | note what next ih =>
    have hchange : Change d s _ _ := .noted (what :: s.events)
    exact (Proceeds.change rfl hchange).bind fun _ _ _ hcourse => ih (d.notes hc) (hstable hcourse hs)

/-- What is performed is a course, and it does not depend on the budgets as long
as they suffice. -/
theorem performWithin_proceeds {budget₁ budget₂ depth₁ depth₂ : Nat}
    (hbudget : budget₁ ≤ budget₂) (hdepth : depth₁ ≤ depth₂) (hs : s.Kept d) {op : Op}
    (hop : d.op op) :
    Proceeds d s (performWithin budget₁ depth₁ op) (performWithin budget₂ depth₂ op) := by
  induction depth₁ generalizing depth₂ s op with
  | zero =>
    intro r t hrun
    cases hrun
  | succ depth₁ ih =>
    obtain ⟨depth₂, rfl⟩ : ∃ n, depth₂ = n + 1 := ⟨depth₂ - 1, by omega⟩
    have hle : depth₁ ≤ depth₂ := by omega
    have h : Companions d (Session.Kept d) (Program.play (performWithin budget₁ depth₁) note)
        (Program.play (performWithin budget₂ depth₂) note) := by
      refine ⟨⟨budget₁, depth₁, rfl⟩, fun hs => hs, Course.kept, fun hs hc => ?_⟩
      exact play_proceeds (P := Session.Kept d) Course.kept (fun hs hop => ih hle hs hop) hc hs
    exact perform_proceeds h hs hbudget hop

end

end EngineHost
