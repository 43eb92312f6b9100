import EngineHost.Proofs.Session.Attended
import EngineHost.Proofs.Session.Watching
/-
Reports.  In an attended session every operation of the host shows the handler
the fault that it ends with, once, and shows nothing if it ends with none.  The
fault may come up in the host itself, in the entry export of a guest, or in a
start function, be it for a trace or for the memory of a fresh instance.
-/
namespace EngineHost

/-! ## Engines -/

theorem Session.Attended.slot {s : Session} (hs : s.Attended) {site : Site} {slot : TracerSlot}
    (hslot : s.slotAt? site = some slot) : slot.lines.Dispatched :=
  hs.foreigns site.foreign site.id _ (linesAt?_of_slotAt? hslot)

section

variable {s : Session} (hs : s.Attended)

include hs

/-- A plan leads where the slot it was made from leads. -/
theorem plan_dispatched {site : Site} {plan : Plan}
    (hplan : ((foreignAt site.foreign).tracer.get s).plan site.id = .ok plan) :
    plan.lines.Dispatched := by
  obtain ⟨slot, m, hslot, _, rfl⟩ := Tracer.plan_eq_ok_iff.1 hplan
  exact hs.slot (Session.slotAt?_eq_some_iff.2 hslot)

theorem createIn_silent (index : Nat) : Silent s (createIn index) := by
  have hids : { s with ids := (((foreignAt index).get s).create s.ids).2.1 }.Attended :=
    ⟨hs.handler, hs.directory, hs.foreigns⟩
  exact .change rfl (hids.setForeign ((hs.foreigns index).create rfl)) rfl

theorem write_silent {index : Nat} {g : Foreign} (hg : g.Dispatched) :
    Silent s ((foreignAt index).write g) := .change rfl (hs.setForeign hg) rfl

end

section

variable {go : Callback → Run Int32} (hgo : Attends go) {s : Session} (hs : s.Attended)
  (budget : Nat)

include hgo hs

theorem tracer_compute_told (site : Site) :
    Told EngineError.fault? s
      (Tracer.compute budget (sessionHost go) (foreignAt site.foreign).tracer site.id).run := by
  unfold Tracer.compute
  refine Follows.lift_step rfl ?_
  refine Told.ofExcept_bind hs (fun _ => Tracer.plan_error) fun plan hplan => ?_
  refine (carryOut_told hgo (plan_dispatched hs hplan) hs budget _).bind fun done t ht => ?_
  cases done.memory with
  | none => exact .ok ht
  | some memory =>
    refine Follows.lift_step rfl ?_
    refine Told.ofExcept_bind ht (fun _ => Tracer.slot_error) fun slot hslot => ?_
    have hslot : t.slotAt? site = some slot :=
      Session.slotAt?_eq_some_iff.2 (Tracer.slot_eq_ok_iff.1 hslot)
    exact Told.quietly rfl (ht.setSlotAt hslot rfl) rfl rfl

/-- What is captured is in the slot. -/
theorem tracer_capture_told (site : Site) :
    Follows s
      (Tracer.capture budget (sessionHost go) (foreignAt site.foreign).tracer site.id).run
      (Tracer.capture budget (sessionHost go) (foreignAt site.foreign).tracer site.id).run
      fun r t => (t.Attended ∧ t.reports = s.reports ++ faultsIn EngineError.fault? r) ∧
        ∀ slot, r = .ok slot → t.slotAt? site = some slot := by
  have hquiet {e : EngineError} (he : e.Own) : s.reports =
      s.reports ++ faultsIn (α := TracerSlot) EngineError.fault? (.error e) := by
    rw [faultsIn, he.fault?, Option.toList_none, List.append_nil]
  have hnone {t : Session} {e : EngineError} :
      ∀ slot, (.error e : Except EngineError TracerSlot) = .ok slot → t.slotAt? site = some slot := by
    intro _ heq
    cases heq
  unfold Tracer.capture
  refine Follows.lift_step rfl ?_
  refine Follows.ofExcept_bind
    (fun _ he => ⟨⟨hs, hquiet (Tracer.slot_error he)⟩, hnone⟩) fun slot hslot => ?_
  have hslot : s.slotAt? site = some slot :=
    Session.slotAt?_eq_some_iff.2 (Tracer.slot_eq_ok_iff.1 hslot)
  dsimp only
  split
  case isTrue =>
    refine Follows.pure ⟨⟨hs, (List.append_nil _).symm⟩, ?_⟩
    intro _ heq
    cases heq
    exact hslot
  case isFalse =>
    refine Follows.ofExcept_bind
      (fun _ he => ⟨⟨hs, hquiet (Tracer.plan_error he)⟩, hnone⟩) fun plan hplan => ?_
    refine Follows.run_bind (initialMemory_told hgo (plan_dispatched hs hplan) hs budget _)
      (fun _ _ ht => ⟨ht, hnone⟩) fun memory t ht => ?_
    obtain ⟨ht, hreports⟩ := ht
    rw [faultsIn, List.append_nil] at hreports
    rw [← hreports]
    refine Follows.lift_step rfl ?_
    refine Follows.ofExcept_bind (fun _ he => ⟨⟨ht, ?_⟩, hnone⟩) fun slot' hslot' => ?_
    · rw [faultsIn, (Tracer.slot_error he).fault?, Option.toList_none, List.append_nil]
    have hslot' : t.slotAt? site = some slot' :=
      Session.slotAt?_eq_some_iff.2 (Tracer.slot_eq_ok_iff.1 hslot')
    refine Follows.self rfl ⟨⟨ht.setSlotAt hslot' rfl, (List.append_nil _).symm⟩, ?_⟩
    intro _ heq
    cases heq
    exact Session.slotAt?_setSlotAt.trans (if_pos rfl)

theorem foreign_compute_told (index : Nat) (id : EngineId) :
    Told EngineError.fault? s
      (Foreign.compute budget (sessionHost go) (foreignAt index) id).run := by
  unfold Foreign.compute
  refine Follows.lift_step rfl ?_
  cases (foreignAt index).get s with
  | scripted e | pinned e => exact Told.ofExcept hs fun _ => Scripted.compute_error
  | tracing t => exact tracer_compute_told hgo hs budget ⟨index, id⟩

theorem foreign_snapshot_told (index : Nat) (id : EngineId) :
    Told EngineError.fault? s
      (Foreign.snapshot budget (sessionHost go) (foreignAt index) id).run := by
  unfold Foreign.snapshot
  refine Follows.lift_step rfl ?_
  cases (foreignAt index).get s with
  | scripted e | pinned e => exact Told.ofExcept hs fun _ => Scripted.snapshot_error
  | tracing t =>
    have hcapture : Told EngineError.fault? s _ :=
      (tracer_capture_told hgo hs budget ⟨index, id⟩).weaken fun _ _ ht => ht.1
    exact hcapture.bind fun _ _ ht => .ok ht

theorem foreign_patch_told (index : Nat) (id : EngineId) (offset length : UInt32)
    (data : ByteArray) :
    Told EngineError.fault? s
      (Foreign.patch budget (sessionHost go) (foreignAt index) id offset length data).run := by
  unfold Foreign.patch
  refine Follows.lift_step rfl ?_
  have hdispatched := hs.foreigns index
  cases hf : (foreignAt index).get s with
  | scripted e | pinned e =>
    rw [hf] at hdispatched
    refine Told.ofExcept_bind hs (fun _ => Scripted.patch_error) fun e' he' => ?_
    obtain ⟨change, rfl, hsame⟩ := Scripted.patch_eq_ok he'
    exact Told.quietly rfl (hs.setForeign (hdispatched.scripted_adjust rfl id _ hsame)) rfl rfl
  | tracing t =>
    unfold Tracer.patch
    refine Told.ofExcept_bind hs (fun _ => Patch.make_error) fun p _ => ?_
    refine Follows.run_bind (tracer_capture_told hgo hs budget ⟨index, id⟩)
      (fun _ _ ht => ht.1) fun slot t ht => ?_
    obtain ⟨⟨ht, hreports⟩, hslot⟩ := ht
    rw [faultsIn, List.append_nil] at hreports
    rw [← hreports]
    refine Told.ofExcept_bind ht (fun _ he => (Patch.applyTo_error he).1.own) fun image _ => ?_
    refine Follows.lift_step rfl ?_
    exact Told.quietly rfl (ht.setSlotAt (hslot slot rfl) rfl) rfl rfl

theorem executeIn_told (index : Nat) (binary : Guest.Binary) :
    Told EngineError.fault? s (executeIn budget go index binary).run := by
  unfold executeIn
  refine (createIn_silent hs index).lift_bind fun id t ht => ?_
  refine Follows.lift_step rfl ?_
  refine Told.ofExcept_bind ht (fun _ => Foreign.install_error) fun g hg => ?_
  have hwritten : Silent t ((foreignAt index).write g) :=
    write_silent ht ((ht.foreigns index).of_same (Foreign.lines?_install hg))
  exact hwritten.lift_bind fun _ _ hu => foreign_compute_told hgo hu budget index id

end

/-! ## Operations past the host -/

namespace Foreign.Dispatched

variable {f : Foreign} {e : Scripted} {id : EngineId}

theorem scripted_lines (h : f.Dispatched) (he : f.scripted? = some e) {slot : ScriptedSlot}
    (hslot : e.slots[id]? = some slot) : slot.lines.Dispatched := by
  refine h id slot.lines ?_
  cases f with
  | scripted | pinned =>
    cases he
    exact congrArg (Option.map _) hslot
  | tracing => cases he

theorem scripted_entry (h : f.Dispatched) (he : f.scripted? = some e) {name : String}
    {entry : EntryPoint} (hentry : e.entry id name = .ok entry) : entry.target = .dispatcher := by
  unfold Scripted.entry at hentry
  split at hentry
  case h_1 => cases hentry
  case h_2 slot hslot =>
    split at hentry
    case h_1 binding hbinding =>
      cases hentry
      exact (h.scripted_lines he hslot).bindings name binding hbinding
    case h_2 => cases hentry

theorem scripted_listener (h : f.Dispatched) (he : f.scripted? = some e) {entry : LogEntry}
    (hentry : e.listener? id = some entry) : entry = .dispatcher := by
  obtain ⟨slot, hslot, hlistener⟩ := Option.bind_eq_some_iff.1 hentry
  exact (h.scripted_lines he hslot).listener entry hlistener

end Foreign.Dispatched

section

variable {s : Session} (hs : s.Attended)

include hs

/-- Operations that keep aside show the handler nothing. -/
theorem perform_silent {op : Op} (hop : op.Aside) (budget : Nat) (go : Callback → Run Int32) :
    Silent s (perform budget go op) := by
  cases op with
  | foreign index op =>
    refine withForeign_follows ⟨hs, rfl⟩ fun f hf => ?_
    have hdispatched : f.Dispatched := hf ▸ hs.foreigns index
    cases op with
    | create => exact (createIn_silent hs index).bind fun _ _ ht => .pure ht
    | install id binary =>
      dsimp only
      cases hinstall : f.install id binary with
      | error e => exact Silent.pure hs
      | ok g =>
        have hg := hdispatched.of_same (Foreign.lines?_install hinstall)
        exact Silent.change rfl (hs.setForeign hg) rfl
    | bind id name b =>
      dsimp only
      split
      case h_1 g hbind =>
        exact (write_silent hs (hdispatched.bind hop hbind)).bind fun _ _ ht => .pure ht
      case h_2 => exact Silent.pure hs
    | listen id entry =>
      obtain rfl : entry = .dispatcher := hop
      dsimp only
      split
      case h_1 g hlisten =>
        exact (write_silent hs (hdispatched.listen hlisten)).bind fun _ _ ht => .pure ht
      case h_2 => exact Silent.pure hs
    | config => exact Silent.pure hs
    | compute | memory | patch | execute => cases hop
  | scripted index op =>
    refine withForeign_follows ⟨hs, rfl⟩ fun f hf => ?_
    have hdispatched : f.Dispatched := hf ▸ hs.foreigns index
    split
    case h_1 => exact Silent.pure hs
    case h_2 e he =>
      cases op with
      | setOutput id payload =>
        have hg := hdispatched.scripted_adjust he id ({ · with output := payload })
          fun _ => ⟨rfl, rfl⟩
        exact (write_silent hs hg).bind fun _ _ ht => .pure ht
      | refuse id =>
        have hg := hdispatched.scripted_adjust he id ({ · with refusing := true })
          fun _ => ⟨rfl, rfl⟩
        exact (write_silent hs hg).bind fun _ _ ht => .pure ht
      | binary id | imports id | armed id => exact Silent.pure hs
      | call | emit => cases hop
  | handle | desk | executeBinary | enter | deliver | filed | setHandler | clearHandler => cases hop

end

/-- Wherever callbacks are run by performing what they ask for, a quiet one shows
the handler nothing. -/
theorem attends_within (budget depth : Nat) :
    Attends (Program.play (performWithin budget depth) note) := by
  refine attends_play fun {op s} hs hop => ?_
  cases depth with
  | zero =>
    intro _ _ hrun
    cases hrun
  | succ depth => exact perform_silent hs hop budget _

/-! ## Handles -/

section

variable {α β : Type} {s : Session}

theorem Told.ofEngine {a : Attempt Session α} (ha : Told EngineError.fault? s a.run) :
    Told HostError.fault? s (Hosted.ofEngine a).run := by
  refine ofEngine_follows (ha.weaken fun r t ht => ⟨ht.1, ?_⟩)
  rw [ht.2]
  cases r with
  | ok x => rfl
  | error e => exact congrArg (_ ++ Option.toList ·) HostError.fault?_ofEngine.symm

theorem Told.hosted_bind {r : Except EngineError α} {f : α → Hosted β} (hs : s.Attended)
    (hr : ∀ e, r = .error e → e.Own) (hf : ∀ x, r = .ok x → Told HostError.fault? s (f x).run) :
    Told HostError.fault? s (Hosted.ofExcept r >>= f).run := by
  cases r with
  | error e => exact .error hs (HostError.fault?_ofEngine.trans (hr e rfl).fault?)
  | ok x => exact hf x rfl

theorem decode_told (hs : s.Attended) (payload : ByteArray) :
    Told HostError.fault? s (ExceptT.mk (pure (TraceResult.decode payload)) : Hosted _).run := by
  refine Follows.pure ⟨hs, ?_⟩
  unfold TraceResult.decode
  split
  · split <;> exact (List.append_nil _).symm
  · exact (List.append_nil _).symm

end

section

variable {go : Callback → Run Int32} (hgo : Attends go) {s : Session} (hs : s.Attended)

section

include hs

theorem attach_told (index : Nat) (id : EngineId) :
    Told HostError.fault? s (Handle.attach index id).run := by
  unfold Handle.attach
  refine Follows.lift_step rfl ?_
  split
  · exact Told.ok hs
  · exact Told.error hs rfl

variable (h : Handle)

theorem install_told (binary : Guest.Binary) : Told HostError.fault? s (h.install binary).run := by
  unfold Handle.install
  refine Follows.lift_step rfl ?_
  refine Told.hosted_bind hs (fun _ => Foreign.install_error) fun g hg => ?_
  have hdispatched := (hs.foreigns h.foreign).of_same (Foreign.lines?_install hg)
  exact Told.quietly rfl (hs.setForeign hdispatched) rfl rfl

theorem unsubscribe_told : Told HostError.fault? s h.unsubscribe.run :=
  Told.quietly rfl (hs.withSubscriber h.id none nofun) rfl rfl

include hgo

theorem fail_told {α : Type} (cause : BindingFault) :
    Told HostError.fault? s (Handle.fail go cause : Hosted α).run := by
  unfold Handle.fail
  refine Follows.lift_step (raise_eq hgo hs cause) ?_
  exact Follows.pure ⟨hs.withEvents _, Session.reports_cons⟩

theorem create_told (index : Nat) : Told HostError.fault? s (Handle.create go index).run := by
  unfold Handle.create
  refine (createIn_silent hs index).lift_bind fun id t ht => ?_
  refine Follows.lift_step rfl ?_
  cases hinsert : t.directory.insert? { id } with
  | some directory =>
    have hkept := ht.directory.insert (EngineRecord.kept_empty id) hinsert
    exact Told.quietly rfl (ht.withDirectory hkept) rfl rfl
  | none => exact fail_told hgo ht _

theorem register_told (name : String) {f : HostFunction Callback}
    (hf : ∀ c, f.Gives c → c.Quiet) : Told HostError.fault? s (h.register go name f).run := by
  unfold Handle.register
  refine Follows.lift_step rfl ?_
  cases hregister : (h.record s).register name f with
  | error cause => exact fail_told hgo hs cause
  | ok filed =>
    refine Follows.lift_step (changeDirectory_eq _) ?_
    refine Follows.lift_step rfl ?_
    split
    case h_1 g hbind =>
      have hfiled : filed.Kept reserved := (hs.directory.record h).register hf hregister
      have hdirectory : (s.directory.adjust h.id fun _ => filed).Kept reserved :=
        hs.directory.adjust fun _ _ => hfiled
      have hdispatched := (hs.foreigns h.foreign).bind rfl hbind
      exact Told.quietly rfl ((hs.withDirectory hdirectory).setForeign hdispatched) rfl rfl
    case h_2 =>
      refine Follows.lift_step (changeDirectory_eq _) ?_
      rw [Directory.adjust_register_discard hregister]
      exact fail_told hgo hs _

theorem subscribe_told {subscriber : String → Callback} (hquiet : ∀ item, (subscriber item).Quiet) :
    Told HostError.fault? s (h.subscribe go subscriber).run := by
  unfold Handle.subscribe
  refine Follows.lift_step (changeDirectory_eq _) ?_
  refine Follows.lift_step rfl ?_
  split
  case h_1 g hlisten =>
    have hsubscribed := hs.withSubscriber h.id (some subscriber) (by
      intro _ heq item
      cases heq
      exact hquiet item)
    have hdispatched := (hs.foreigns h.foreign).listen hlisten
    exact Told.quietly rfl (hsubscribed.setForeign hdispatched) rfl rfl
  case h_2 =>
    refine Follows.lift_step (changeDirectory_eq _) ?_
    rw [Directory.adjust_subscriber]
    exact fail_told hgo (hs.withSubscriber h.id none nofun) _

variable (budget : Nat)

theorem compute_told : Told HostError.fault? s (h.compute budget go).run := by
  unfold Handle.compute
  exact (foreign_compute_told hgo hs budget _ _).ofEngine.bind fun payload _ ht =>
    decode_told ht payload

theorem memory_told : Told HostError.fault? s (h.memory budget go).run :=
  (foreign_snapshot_told hgo hs budget _ _).ofEngine

theorem read_told (offset length : UInt32) :
    Told HostError.fault? s (h.read budget go offset length).run := by
  unfold Handle.read
  refine (memory_told hgo hs h budget).bind fun image t ht => ?_
  exact (Told.ofExcept ht fun _ he => (readAt_error he).own).ofEngine

theorem patch_told (offset length : UInt32) (data : ByteArray) :
    Told HostError.fault? s (h.patch budget go offset length data).run := by
  unfold Handle.patch
  refine Told.hosted_bind hs (fun _ => checkLength_error) fun _ _ => ?_
  exact (foreign_patch_told hgo hs budget _ _ offset length data).ofEngine

end

end

/-! ## Performing -/

/-- What a caller asks of the host: the operations on handles, and running a
binary in an engine made for it. -/
def Op.OfHost : Op → Prop
  | .handle _ _ | .executeBinary _ _ => True
  | _ => False

/-- The error of the host that an answer is. -/
def Answer.hostError? : Answer → Option HostError
  | .hostError e => some e
  | _ => none

/-- The fault that an answer of the host carries. -/
def Answer.fatal? (a : Answer) : Option BindingFault := a.hostError?.bind HostError.fault?

section

variable {α : Type} {s : Session}

theorem answerHosted_told {a : Hosted α} {answer : α → Answer} (ha : Told HostError.fault? s a.run)
    (hanswer : ∀ x, (answer x).hostError? = none) :
    Follows s (answerHosted a answer) (answerHosted a answer)
      fun r t => t.Attended ∧ t.reports = s.reports ++ r.fatal?.toList := by
  refine Follows.bind ha fun r t ht => ?_
  cases r with
  | ok x =>
    refine .pure ⟨ht.1, ?_⟩
    rw [Answer.fatal?, hanswer x]
    exact ht.2
  | error e => exact .pure ht

end

section

variable {go : Callback → Run Int32} (hgo : Attends go) {s : Session} (hs : s.Attended)
  (budget : Nat)

omit hs in
/-- A handle that is made gets a name. -/
theorem keepHandle_told {a : Hosted Handle} (name : String) (ha : Told HostError.fault? s a.run) :
    Told HostError.fault? s
      (do let handle ← a; keepHandle name handle; return handle : Hosted Handle).run :=
  ha.bind fun _ _ ht => Told.quietly rfl ⟨ht.handler, ht.directory, ht.foreigns⟩ rfl rfl

include hgo hs

/-- What the host is asked for shows the handler the fault of the answer. -/
theorem perform_told {op : Op} (hop : reserved.op op) (hhost : op.OfHost) :
    Follows s (perform budget go op) (perform budget go op)
      fun r t => t.Attended ∧ t.reports = s.reports ++ r.fatal?.toList := by
  have hnothing : s.Attended ∧ s.reports = s.reports ++ Answer.noSuchName.fatal?.toList :=
    ⟨hs, (List.append_nil _).symm⟩
  cases op with
  | executeBinary index binary =>
    refine withForeign_follows hnothing fun _ _ => answerHosted_told ?_ fun _ => rfl
    exact (executeIn_told hgo hs budget index binary).ofEngine.bind fun payload _ ht =>
      decode_told ht payload
  | handle name op =>
    cases op with
    | create index =>
      refine withForeign_follows hnothing fun _ _ => answerHosted_told ?_ fun _ => rfl
      exact keepHandle_told name (create_told hgo hs index)
    | attach index id =>
      refine withForeign_follows hnothing fun _ _ => answerHosted_told ?_ fun _ => rfl
      exact keepHandle_told name (attach_told hs index id)
    | copy target =>
      refine withHandle_follows hnothing fun handle _ => ?_
      exact Follows.self rfl ⟨⟨hs.handler, hs.directory, hs.foreigns⟩, (List.append_nil _).symm⟩
    | install binary =>
      exact withHandle_follows hnothing fun handle _ =>
        answerHosted_told (install_told hs handle binary) fun _ => rfl
    | compute =>
      exact withHandle_follows hnothing fun handle _ =>
        answerHosted_told (compute_told hgo hs handle budget) fun _ => rfl
    | memory =>
      exact withHandle_follows hnothing fun handle _ =>
        answerHosted_told (memory_told hgo hs handle budget) fun _ => rfl
    | read offset length =>
      exact withHandle_follows hnothing fun handle _ =>
        answerHosted_told (read_told hgo hs handle budget offset length) fun _ => rfl
    | patch offset length data =>
      exact withHandle_follows hnothing fun handle _ =>
        answerHosted_told (patch_told hgo hs handle budget offset length data) fun _ => rfl
    | register functionName f =>
      have hquiet (c : Callback) (hc : f.Gives c) : c.Quiet := hop.2 c (.register hc)
      exact withHandle_follows hnothing fun handle _ =>
        answerHosted_told (register_told hgo hs handle functionName hquiet) fun _ => rfl
    | subscribe subscriber =>
      have hquiet (item : String) : Callback.Quiet (subscriber item) := hop.2 _ (.subscribe item)
      exact withHandle_follows hnothing fun handle _ =>
        answerHosted_told (subscribe_told hgo hs handle hquiet) fun _ => rfl
    | unsubscribe =>
      exact withHandle_follows hnothing fun handle _ =>
        answerHosted_told (unsubscribe_told hs handle) fun _ => rfl
    | functions | debug =>
      exact withHandle_follows hnothing fun handle _ =>
        Follows.self rfl ⟨hs, (List.append_nil _).symm⟩
  | foreign | scripted | desk | enter | deliver | filed | setHandler | clearHandler => cases hhost

omit hgo hs in
theorem answerAttempt_attended {α : Type} {a : Attempt Session α} {answer : α → Answer}
    (ha : Told EngineError.fault? s a.run) :
    Follows s (answerAttempt a answer) (answerAttempt a answer) fun _ t => t.Attended :=
  Follows.bind ha fun r t ht => by cases r <;> exact .pure ht.1

/-- An attended session stays one, whatever is done to its engines. -/
theorem perform_attended {op : Op} (hop : reserved.op op) :
    Follows s (perform budget go op) (perform budget go op) fun _ t => t.Attended := by
  by_cases haside : op.Aside
  case pos => exact (perform_silent hs haside budget go).weaken fun _ _ ht => ht.1
  case neg =>
    have hcall (id : EngineId) (name : String) (call : RawCall) :=
      dispatchCall_told hgo hs id name call
    cases op with
    | handle name op =>
      exact (perform_told hgo hs budget hop trivial).weaken fun _ _ ht => ht.1
    | executeBinary index binary =>
      exact (perform_told hgo hs budget hop trivial).weaken fun _ _ ht => ht.1
    | foreign index op =>
      refine withForeign_follows hs fun f _ => ?_
      cases op with
      | compute id => exact answerAttempt_attended (foreign_compute_told hgo hs budget index id)
      | memory id => exact answerAttempt_attended (foreign_snapshot_told hgo hs budget index id)
      | patch id offset length data =>
        exact answerAttempt_attended
          (foreign_patch_told hgo hs budget index id offset length data)
      | execute binary => exact answerAttempt_attended (executeIn_told hgo hs budget index binary)
      | create | install | config => exact absurd trivial haside
      | bind | listen => exact absurd hop.1 haside
    | scripted index op =>
      refine withForeign_follows hs fun f hf => ?_
      have hdispatched : f.Dispatched := hf ▸ hs.foreigns index
      split
      case h_1 => exact Follows.pure hs
      case h_2 e he =>
        cases op with
        | call id name call =>
          refine Follows.bind ?_ fun _ _ ht => .pure ht
          unfold Scripted.call
          split
          case h_1 => exact Follows.pure hs
          case h_2 entry hentry =>
            have henter := enter_told hgo hs (hdispatched.scripted_entry he hentry)
            exact (henter id name _).weaken fun _ _ ht => ht.1
        | emit id item =>
          refine Follows.bind ?_ fun _ _ ht => .pure ht
          unfold Scripted.emit
          split
          case h_1 entry hentry =>
            have hdeliver := deliver_told hgo hs (hdispatched.scripted_listener he hentry)
            exact (hdeliver id item).weaken fun _ _ ht => ht.1
          case h_2 => exact Follows.pure hs
        | setOutput | refuse | binary | imports | armed => exact absurd trivial haside
    | enter id name call =>
      exact Follows.bind (dispatchCall_told hgo hs id name call) fun _ _ ht => .pure ht.1
    | deliver id item =>
      exact Follows.bind (dispatchItem_told hgo hs id item) fun _ _ ht => .pure ht.1
    | filed id => exact Follows.self rfl hs
    | desk | setHandler | clearHandler => exact absurd hop.1 id

end

/-! ## Errors of the host -/

/-- The answer is no engine's error that hides a fault. -/
def Answer.Unhidden (a : Answer) : Prop := ∀ cause, a ≠ .hostError (.engine (.fault cause))

/-- The action does not end with an engine's error that hides a fault. -/
def Unhidden {α : Type} (a : Hosted α) : Prop :=
  ∀ s r t, a.run s = some (r, t) → ∀ cause, r ≠ .error (.engine (.fault cause))

namespace Unhidden

variable {α β : Type}

theorem pure {x : α} : Unhidden (Pure.pure x : Hosted α) := by
  intro s r t hrun cause heq
  cases hrun
  cases heq

theorem bind {a : Hosted α} {f : α → Hosted β} (ha : Unhidden a) (hf : ∀ x, Unhidden (f x)) :
    Unhidden (a >>= f) := by
  intro s r t hrun
  rcases Turn.run_bind_eq_some_iff.1 hrun with ⟨e, herror, rfl⟩ | ⟨x, u, _, hrest⟩
  · intro cause heq
    cases heq
    exact ha s _ t herror cause rfl
  · exact hf x u r t hrest

theorem lift {a : Run α} : Unhidden (liftM a : Hosted α) := by
  intro s r t hrun cause heq
  rw [← bind_pure (liftM a : Hosted α)] at hrun
  obtain ⟨_, _, _, ⟨⟩⟩ := Turn.run_lift_bind_eq_some_iff.1 hrun
  cases heq

theorem ofEngine {a : Attempt Session α} : Unhidden (Hosted.ofEngine a) := by
  intro s r t hrun cause heq
  obtain ⟨x, _, hr⟩ := Turn.bind_pure_eq_some_iff.1 hrun
  subst hr
  cases x with
  | ok x => cases heq
  | error e =>
    cases e <;> cases heq

theorem decode (payload : ByteArray) :
    Unhidden (ExceptT.mk (Pure.pure (TraceResult.decode payload))) := by
  intro s r t hrun cause heq
  cases hrun
  unfold TraceResult.decode at heq
  repeat' split at heq
  all_goals cases heq

theorem fail {go : Callback → Run Int32} {cause : BindingFault} :
    Unhidden (Handle.fail go cause : Hosted α) := by
  refine lift.bind fun _ => ?_
  intro s r t hrun cause heq
  cases hrun
  cases heq

end Unhidden

section

variable (budget : Nat) (go : Callback → Run Int32)

theorem create_unhidden (index : Nat) : Unhidden (Handle.create go index) := by
  refine Unhidden.lift.bind fun id => Unhidden.lift.bind fun s => ?_
  split
  · exact Unhidden.lift.bind fun _ => .pure
  · exact .fail

theorem attach_unhidden (index : Nat) (id : EngineId) : Unhidden (Handle.attach index id) := by
  refine Unhidden.lift.bind fun s => ?_
  split
  · exact .pure
  · intro s r t hrun cause heq
    cases hrun
    cases heq

theorem register_unhidden (h : Handle) (name : String) (f : HostFunction Callback) :
    Unhidden (h.register go name f) := by
  refine Unhidden.lift.bind fun s => ?_
  split
  · exact .fail
  refine Unhidden.lift.bind fun _ => Unhidden.lift.bind fun _ => ?_
  split
  · exact .lift
  · exact Unhidden.lift.bind fun _ => .fail

theorem subscribe_unhidden (h : Handle) (subscriber : String → Callback) :
    Unhidden (h.subscribe go subscriber) := by
  refine Unhidden.lift.bind fun _ => Unhidden.lift.bind fun s => ?_
  split
  · exact .lift
  · exact Unhidden.lift.bind fun _ => .fail

omit budget go in
theorem answerHosted_unhidden {α : Type} {a : Hosted α} {answer : α → Answer} {s : Session}
    (ha : Unhidden a) (hanswer : ∀ x, (answer x).hostError? = none) :
    Follows s (answerHosted a answer) (answerHosted a answer) fun r _ => r.Unhidden := by
  intro r t hrun
  refine ⟨hrun, fun cause heq => ?_⟩
  obtain ⟨x, hx, rfl⟩ := answerHosted_eq_some_iff.1 hrun
  cases x with
  | ok x =>
    have herror := hanswer x
    rw [show answer x = _ from heq] at herror
    cases herror
  | error e =>
    cases heq
    exact ha s _ t hx cause rfl

omit budget go in
theorem keepHandle_unhidden {a : Hosted Handle} (name : String) (ha : Unhidden a) :
    Unhidden (do let handle ← a; keepHandle name handle; return handle) :=
  ha.bind fun _ => Unhidden.lift.bind fun _ => .pure

/-- No error of the host hides a fault, in whatever session it comes up. -/
theorem perform_unhidden {op : Op} (hhost : op.OfHost) (s : Session) :
    Follows s (perform budget go op) (perform budget go op) fun r _ => r.Unhidden := by
  cases op with
  | executeBinary index binary =>
    refine withForeign_follows nofun fun _ _ => answerHosted_unhidden ?_ fun _ => rfl
    exact Unhidden.ofEngine.bind fun payload => .decode payload
  | handle name op =>
    cases op with
    | create index =>
      refine withForeign_follows nofun fun _ _ => answerHosted_unhidden ?_ fun _ => rfl
      exact keepHandle_unhidden name (create_unhidden go index)
    | attach index id =>
      refine withForeign_follows nofun fun _ _ => answerHosted_unhidden ?_ fun _ => rfl
      exact keepHandle_unhidden name (attach_unhidden index id)
    | install binary =>
      refine withHandle_follows nofun fun handle _ => answerHosted_unhidden ?_ fun _ => rfl
      exact Unhidden.lift.bind fun _ => Unhidden.ofEngine.bind fun _ => .lift
    | compute =>
      refine withHandle_follows nofun fun handle _ => answerHosted_unhidden ?_ fun _ => rfl
      exact Unhidden.ofEngine.bind fun payload => .decode payload
    | memory =>
      exact withHandle_follows nofun fun handle _ => answerHosted_unhidden .ofEngine fun _ => rfl
    | read offset length =>
      refine withHandle_follows nofun fun handle _ => answerHosted_unhidden ?_ fun _ => rfl
      exact Unhidden.ofEngine.bind fun _ => .ofEngine
    | patch offset length data =>
      refine withHandle_follows nofun fun handle _ => answerHosted_unhidden ?_ fun _ => rfl
      exact Unhidden.ofEngine.bind fun _ => .ofEngine
    | register functionName f =>
      refine withHandle_follows nofun fun handle _ => answerHosted_unhidden ?_ fun _ => rfl
      exact register_unhidden go handle functionName f
    | subscribe subscriber =>
      refine withHandle_follows nofun fun handle _ => answerHosted_unhidden ?_ fun _ => rfl
      exact subscribe_unhidden go handle subscriber
    | unsubscribe =>
      exact withHandle_follows nofun fun handle _ => answerHosted_unhidden .lift fun _ => rfl
    | copy | functions | debug =>
      exact withHandle_follows nofun fun _ _ => Follows.self rfl nofun
  | foreign | scripted | desk | enter | deliver | filed | setHandler | clearHandler => cases hhost

end

/-! ## Transcripts -/

/-- Every answer of the host carries the fault that the handler was shown while
it was found, and no other was shown. -/
def ReportedOnce (op : Op) (entry : Answer × List Event) : Prop :=
  op.OfHost → entry.2.filterMap Event.reported? = entry.1.fatal?.toList ∧ entry.1.Unhidden

/-- In an attended session every fault is shown to the handler exactly once. -/
theorem faults_reported_once {s : Session} (hs : s.Attended) (hnone : s.reports = [])
    {ops : List Op} (hops : ∀ op ∈ ops, reserved.op op) {budget depth : Nat}
    {log : List (Answer × List Event)} (h : s.transcript budget depth ops = some log) :
    List.Forall₂ ReportedOnce ops log := by
  induction ops generalizing s log with
  | nil =>
    cases h
    exact .nil
  | cons op rest ih =>
    rw [List.forall_mem_cons] at hops
    obtain ⟨⟨answer, t⟩, hanswer, h⟩ := Option.bind_eq_some_iff.1 h
    obtain ⟨log, hrest, ⟨⟩⟩ := Option.bind_eq_some_iff.1 h
    cases depth with
    | zero => cases hanswer
    | succ depth =>
      have hgo := attends_within budget depth
      obtain ⟨-, ht⟩ := perform_attended hgo hs budget hops.1 _ _ hanswer
      refine .cons (fun hhost => ⟨?_, (perform_unhidden budget _ hhost s _ _ hanswer).2⟩) ?_
      · obtain ⟨-, -, hreports⟩ := perform_told hgo hs budget hops.1 hhost _ _ hanswer
        rwa [hnone, List.nil_append] at hreports
      · exact ih (ht.withEvents []) rfl hops.2 hrest

/-- A session at its start, with a recorder, is attended. -/
theorem Session.Fresh.attended {s : Session} (hs : s.Fresh) :
    { s with handler := some recorder }.Attended := by
  refine ⟨rfl, hs.kept.directory, fun index id l hl => ?_⟩
  have hfresh := hs.foreign index
  change ((foreignAt index).get s).lines? id = some l at hl
  unfold Foreign.lines? at hl
  split at hl
  all_goals
    rename_i hf
    rw [hf, Foreign.Fresh] at hfresh
    rw [hfresh, Std.ExtTreeMap.getElem?_empty] at hl
    cases hl

/-! ## An import that nothing is registered for -/

/-- Bind an import past the host and run a guest whose start function calls it,
for a trace and for the memory of a fresh instance. -/
def unfiledOps : List Op := [
  .handle "a" (.create 0),
  .foreign 0 (.bind ⟨1⟩ "f" { shape := .i32 1, entry := .forShape (.i32 1) }),
  .handle "a" (.install (.described { callingGuest with start := some 1 })),
  .handle "a" .compute,
  .handle "a" .memory]

theorem unfiledOps_reserved : ∀ op ∈ unfiledOps, reserved.op op := by
  simp only [unfiledOps, List.forall_mem_cons]
  refine ⟨⟨trivial, ?_⟩, ⟨rfl, ?_⟩, ⟨trivial, ?_⟩, ⟨trivial, ?_⟩, ⟨trivial, ?_⟩, nofun⟩
  all_goals
    intro _ heq
    cases heq

/-- Both runs end in a fault, and each of the two is shown. -/
theorem unfiledOps_reported :
    { tracingSession {} with handler := some recorder }.Attended ∧
      (∀ op ∈ unfiledOps, reserved.op op) ∧
      ∃ log, ({ tracingSession {} with handler := some recorder } : Session).transcript 20 3
          unfiledOps = some log ∧
        log.map (·.1.fatal?) = [none, none, none, some (.unknownFunction ⟨1⟩ "f"),
          some (.unknownFunction ⟨1⟩ "f")] ∧
        List.Forall₂ ReportedOnce unfiledOps log := by
  have hattended := (tracingSession_fresh {}).attended
  have hfaults : (({ tracingSession {} with handler := some recorder } : Session).transcript 20 3
      unfiledOps).map (·.map (·.1.fatal?)) = some [none, none, none,
        some (.unknownFunction ⟨1⟩ "f"), some (.unknownFunction ⟨1⟩ "f")] := by decide +kernel
  obtain ⟨log, hlog, hfaults⟩ := Option.map_eq_some_iff.1 hfaults
  exact ⟨hattended, unfiledOps_reserved, log, hlog, hfaults,
    faults_reported_once hattended rfl unfiledOps_reserved hlog⟩

end EngineHost
