import EngineHost.Proofs.Resolution
import EngineHost.Proofs.Session.Bridging
import EngineHost.Proofs.Session.Guarding
/-
Permanence.  The record of an engine is filed once, and from then on it is the
same record: what is found under the identity has come of it by registrations
and by changes of the subscriber.  A registration that was answered well is
never lost and never replaced, so a call that fits it runs its function.

What comes later is said with single changes, of which courses are made.  A
session in the middle of an execution, when a callback has its turn, is earlier
in this sense than the one in which the execution has stored its memory.
-/
namespace EngineHost

/-! ## Records in the course of time -/

/-- What is done to a record in its place. -/
inductive EngineRecord.Moves (r : EngineRecord Callback) : EngineRecord Callback → Prop where
  | registered {name : String} {f : HostFunction Callback} {filed : EngineRecord Callback}
      (h : r.register name f = .ok filed) : r.Moves filed
  | subscribed (subscriber : Option (String → Callback)) : r.Moves { r with subscriber }

/-- The same record, some time later. -/
def EngineRecord.Becomes : EngineRecord Callback → EngineRecord Callback → Prop :=
  Relation.ReflTransGen EngineRecord.Moves

namespace EngineRecord.Becomes

variable {r r' : EngineRecord Callback}

theorem functions {name : String} {f : HostFunction Callback} (h : r.Becomes r')
    (hf : r.functions[name]? = some f) : r'.functions[name]? = some f := by
  induction h with
  | refl => exact hf
  | tail _ hmove ih =>
    cases hmove with
    | registered h => exact EngineRecord.functions_of_register h ih
    | subscribed => exact ih

end EngineRecord.Becomes

/-! ## Sessions in the course of time -/

/-- One thing done to a session: a change, or the storing of a memory. -/
inductive Session.Moves (s : Session) : Session → Prop where
  | change {js : Journal} {t : Session} (h : Change .none s js t) : s.Moves t
  | stored (site : Site) (slot : TracerSlot) (memory : ByteArray)
      (hslot : s.slotAt? site = some slot) :
      s.Moves (s.setSlotAt site { slot with image := some memory })

/-- The session some time later. -/
def Session.Later : Session → Session → Prop := Relation.ReflTransGen Session.Moves

theorem Course.later {s t : Session} {js : Journal} (h : Course .none s js t) : s.Later t :=
  h.preserves (P := s.Later)
    (fun _ _ _ hchange hs => hs.tail (.change hchange))
    (fun _ site slot memory hslot hs => hs.tail (.stored site slot memory hslot)) .refl

section

variable {s t : Session} {id : EngineId}

/-- A record that is filed stays, whatever is done. -/
theorem Session.Moves.becomes {r : EngineRecord Callback} (h : s.Moves t)
    (hr : s.directory.lookup id = some r) :
    ∃ r', t.directory.lookup id = some r' ∧ r.Becomes r' := by
  cases h with
  | stored site slot memory hslot => exact ⟨r, hr, .refl⟩
  | change h =>
    have hadjust {k : EngineId} {f : EngineRecord Callback → EngineRecord Callback}
        (hf : k = id → r.Moves (f r)) :
        ∃ r', (s.directory.adjust k f).lookup id = some r' ∧ r.Becomes r' := by
      rw [Directory.lookup_adjust]
      split
      case isTrue hk => exact ⟨f r, by rw [hr, Option.map_some], .single (hf hk)⟩
      case isFalse => exact ⟨r, hr, .refl⟩
    cases h with
    | noted | handled | desk | named | created | installed | bound | listened | scripted | recorded =>
      exact ⟨r, hr, .refl⟩
    | filed new directory hinsert =>
      refine ⟨r, ?_, .refl⟩
      show directory.lookup id = some r
      rw [Directory.lookup_insert? hinsert]
      split
      case isFalse => exact hr
      case isTrue hnew =>
        -- Only an identity that is free can be filed.
        have hfree := (Directory.insert?_eq_some_iff.1 hinsert).1
        rw [show ({ id := new } : EngineRecord Callback).id = id from hnew, hr] at hfree
        cases hfree
    | registered name functionName handle f record g hkept hhandle hregister =>
      refine hadjust fun hid => ?_
      rw [Handle.record, hid, hr, Option.getD_some] at hregister
      exact .registered hregister
    | subscribed name handle subscriber => exact hadjust fun _ => .subscribed (some subscriber)
    | unsubscribed => exact hadjust fun _ => .subscribed none

theorem Session.Later.becomes {r : EngineRecord Callback} (h : s.Later t)
    (hr : s.directory.lookup id = some r) :
    ∃ r', t.directory.lookup id = some r' ∧ r.Becomes r' := by
  induction h with
  | refl => exact ⟨r, hr, .refl⟩
  | tail _ hmove ih =>
    obtain ⟨r₁, hr₁, hbecomes₁⟩ := ih
    obtain ⟨r₂, hr₂, hbecomes₂⟩ := hmove.becomes hr₁
    exact ⟨r₂, hr₂, hbecomes₁.trans hbecomes₂⟩

end

/-! ## Calls that fit -/

/-- A call through the dispatcher that fits a function runs that function and
nothing else. -/
def Session.Dispatches (s : Session) (id : EngineId) (name : String)
    (f : HostFunction Callback) : Prop :=
  ∀ call : RawCall, call.Carries id → f.shape = call.shape →
    ∃ c, f.Handed call c ∧ ∀ go : Callback → Run Int32,
      dispatchCall go id name call s = (do
        let value ← go c
        return .ok (if call.path = .notify then 0 else value) : Run _) s

/-- Where there is no fault, nothing is shown to the handler. -/
theorem reporting_of_ok {α : Type} {s : Session} {go : Callback → Run Int32}
    {a : Run (Except BindingFault α)} (h : ∀ r t, a s = some (r, t) → ∃ v, r = .ok v) :
    reporting go a s = a s := by
  unfold reporting
  cases ha : a s with
  | none =>
    show Option.bind (a s) _ = none
    rw [ha, Option.bind_none]
  | some result =>
    obtain ⟨answer, t⟩ := result
    obtain ⟨v, rfl⟩ := h _ _ ha
    exact Turn.bind_eq_of_eq_some ha

theorem dispatchCall_of_runs {s : Session} {id : EngineId} {name : String} {call : RawCall}
    {c : Callback} (h : s.directory.Runs id name call c) (go : Callback → Run Int32) :
    dispatchCall go id name call s = (do
      let value ← go c
      return .ok (if call.path = .notify then 0 else value) : Run _) s := by
  have hcall : (do runCall go (← get).directory id name call : Run _) s =
      (do
        let value ← go c
        return .ok (if call.path = .notify then 0 else value) : Run _) s := by
    rw [Turn.get_bind, h go]
  unfold dispatchCall
  rw [reporting_of_ok, hcall]
  intro r t hrun
  rw [hcall] at hrun
  obtain ⟨value, _, _, ⟨⟩⟩ := Turn.bind_eq_some_iff.1 hrun
  exact ⟨_, rfl⟩

theorem Directory.Registered.dispatches {s : Session} {id : EngineId} {name : String}
    {f : HostFunction Callback} (h : s.directory.Registered id name f) :
    s.Dispatches id name f := by
  intro call hmarker hshape
  obtain ⟨c, hc, hresolve⟩ := Directory.resolve_of_fitting h hmarker hshape
  exact ⟨c, hc, dispatchCall_of_runs (Directory.runs_iff.2 hresolve)⟩

/-! ## What is settled -/

/-- Every record is filed under its own identity. -/
def Directory.Filed (d : Directory Callback) : Prop := ∀ id r, d.lookup id = some r → r.id = id

/-- Every record is filed under its own identity, and every handle is on an
engine with a record. -/
structure Session.Settled (s : Session) : Prop where
  directory : s.directory.Filed
  handles : ∀ (name : String) (h : Handle), s.handles[name]? = some h →
    (s.directory.lookup h.id).isSome

section

variable {d : Discipline} {s t : Session} {js : Journal}

theorem Directory.Filed.adjust {dir : Directory Callback} {id : EngineId}
    {f : EngineRecord Callback → EngineRecord Callback} (h : dir.Filed)
    (hf : ∀ r, dir.lookup id = some r → (f r).id = r.id) : (dir.adjust id f).Filed := by
  intro k record hrecord
  rw [Directory.lookup_adjust] at hrecord
  split at hrecord
  case isFalse => exact h k record hrecord
  case isTrue hk =>
    subst hk
    obtain ⟨r, hr, rfl⟩ := Option.map_eq_some_iff.1 hrecord
    rw [hf r hr, h id r hr]

theorem Change.directory_filed (h : Change d s js t) (hs : s.directory.Filed) : t.directory.Filed := by
  cases h with
  | noted | handled | desk | named | created | installed | bound | listened | scripted | recorded =>
    exact hs
  | filed id directory hinsert =>
    intro k record hrecord
    change directory.lookup k = some record at hrecord
    rw [Directory.lookup_insert? hinsert] at hrecord
    split at hrecord
    case isFalse => exact hs k record hrecord
    case isTrue hk =>
      cases hrecord
      exact hk
  | registered name functionName handle f record g hkept hhandle hregister =>
    refine hs.adjust fun r hr => ?_
    rw [Handle.record, hr, Option.getD_some] at hregister
    obtain ⟨_, rfl⟩ := EngineRecord.register_eq_ok_iff.1 hregister
    rfl
  | subscribed | unsubscribed => exact hs.adjust fun _ _ => rfl

theorem Course.settled (h : Course d s js t) (hs : s.Settled) : t.Settled := by
  refine h.preserves ?_ ?_ hs
  case refine_1 =>
    exact fun _ _ _ hchange hs => ⟨hchange.directory_filed hs.directory, hchange.handles_filed hs.handles⟩
  case refine_2 => exact fun _ _ _ _ _ hs => ⟨hs.directory, hs.handles⟩

theorem Session.Fresh.settled (hs : s.Fresh) : s.Settled := by
  constructor
  · intro id r hr
    rw [hs.directory, Directory.lookup, Std.ExtTreeMap.getElem?_empty] at hr
    cases hr
  · intro name h hh
    rw [hs.handles, Std.ExtTreeMap.getElem?_empty] at hh
    cases hh

end

/-! ## Creating and registering -/

section

variable {s t : Session} {go : Callback → Run Int32} {index : Nat}

theorem createIn_directory {id : EngineId} (h : createIn index s = some (id, t)) :
    t.directory = s.directory := by
  unfold createIn at h
  cases h
  rfl

/-- A handle that is made is on an engine whose record is new. -/
theorem create_eq_ok {h : Handle} (hrun : (Handle.create go index).run s = some (.ok h, t)) :
    s.directory.lookup h.id = none ∧ t.directory.lookup h.id = some { id := h.id } := by
  unfold Handle.create at hrun
  obtain ⟨id, u, hcreate, hrun⟩ := Turn.run_lift_bind_eq_some_iff.1 hrun
  obtain ⟨_, _, ⟨⟩, hrun⟩ := Turn.run_lift_bind_eq_some_iff.1 hrun
  have hdirectory := createIn_directory hcreate
  cases hinsert : u.directory.insert? { id } with
  | none =>
    rw [hinsert] at hrun
    obtain ⟨_, _, _, ⟨⟩⟩ := Turn.run_lift_bind_eq_some_iff.1 hrun
  | some directory =>
    rw [hinsert] at hrun
    cases hrun
    constructor
    · rw [← hdirectory]
      exact (Directory.insert?_eq_some_iff.1 hinsert).1
    · show directory.lookup id = some { id }
      rw [Directory.lookup_insert? hinsert, if_pos rfl]

/-- An identity that is taken ends in a fault, and the fault is all that follows
the creation. -/
theorem create_of_taken {id : EngineId} {r : EngineRecord Callback}
    (hcreate : createIn index s = some (id, t)) (hr : s.directory.lookup id = some r) :
    (Handle.create go index).run s =
      (Handle.fail go (.duplicateEngine id) : Hosted Handle).run t := by
  have htaken : t.directory.insert? { id } = none := by
    rw [createIn_directory hcreate, Directory.insert?, if_pos]
    rw [Directory.contains_eq_isSome, hr, Option.isSome_some]
  unfold Handle.create
  rw [Turn.run_lift_bind, Turn.bind_eq_of_eq_some hcreate, Turn.run_get_bind, htaken]

/-- A registration that is answered well is in the record of the engine. -/
theorem register_eq_ok {h : Handle} {name : String} {f : HostFunction Callback}
    (hfiled : (s.directory.lookup h.id).isSome)
    (hrun : (h.register go name f).run s = some (.ok (), t)) :
    t.directory.Registered h.id name f := by
  unfold Handle.register at hrun
  obtain ⟨_, _, ⟨⟩, hrun⟩ := Turn.run_lift_bind_eq_some_iff.1 hrun
  cases hregister : (h.record s).register name f with
  | error cause =>
    rw [hregister] at hrun
    obtain ⟨_, _, _, ⟨⟩⟩ := Turn.run_lift_bind_eq_some_iff.1 hrun
  | ok record =>
    rw [hregister] at hrun
    obtain ⟨_, _, ⟨⟩, hrun⟩ := Turn.run_lift_bind_eq_some_iff.1 hrun
    obtain ⟨_, u, ⟨⟩, hrun⟩ := Turn.run_lift_bind_eq_some_iff.1 hrun
    split at hrun
    case h_1 g _ =>
      cases hrun
      refine ⟨record, ?_, ?_⟩
      · obtain ⟨r, hr⟩ := Option.isSome_iff_exists.1 hfiled
        show (s.directory.adjust h.id fun _ => record).lookup h.id = some record
        rw [Directory.lookup_adjust, if_pos rfl, hr, Option.map_some]
      · obtain ⟨_, rfl⟩ := EngineRecord.register_eq_ok_iff.1 hregister
        exact Std.ExtTreeMap.getElem?_insert_self
    case h_2 =>
      obtain ⟨_, _, _, hrun⟩ := Turn.run_lift_bind_eq_some_iff.1 hrun
      obtain ⟨_, _, _, ⟨⟩⟩ := Turn.run_lift_bind_eq_some_iff.1 hrun

end

/-! ## Permanence -/

/-- What is asked of a session that comes after one in which an engine had this
record: it is the same record that is found, and a function that it held is what
a call that fits runs. -/
structure Session.Upholds (s : Session) (id : EngineId) (r : EngineRecord Callback) : Prop where
  record : ∃ r', s.directory.lookup id = some r' ∧ r.Becomes r'
  functions : ∀ (name : String) (f : HostFunction Callback), r.functions[name]? = some f →
    s.Dispatches id name f

/-- From here on registrations are permanent. -/
structure Session.Permanent (s : Session) : Prop where
  /-- What is filed is filed under its own identity, and it is upheld. -/
  lasts : ∀ id r, s.directory.lookup id = some r →
    r.id = id ∧ ∀ t, s.Later t → t.Upholds id r
  /-- A new engine has a record of its own. -/
  creates : ∀ budget depth name index id t,
    performWithin budget depth (.handle name (.create index)) s = some (.id id, t) →
      s.directory.lookup id = none ∧ t.directory.lookup id = some { id } ∧
        ∀ u, t.Later u → u.Upholds id { id }
  /-- An identity that is taken is refused.  The fault is shown to the handler in
  a session whose directory is still the same. -/
  refuses : ∀ go index id r t, createIn index s = some (id, t) →
    s.directory.lookup id = some r → t.directory = s.directory ∧
      (Handle.create go index).run s =
        (Handle.fail go (.duplicateEngine id) : Hosted Handle).run t
  /-- A function that is registered is upheld. -/
  registers : ∀ budget depth name functionName f t,
    performWithin budget depth (.handle name (.register functionName f)) s = some (.ok, t) →
      ∃ h r, s.handles[name]? = some h ∧ t.directory.lookup h.id = some r ∧
        r.functions[functionName]? = some f ∧ ∀ u, t.Later u → u.Upholds h.id r
  /-- What is performed from here on only passes through later sessions. -/
  goes_on : ∀ budget depth ops log, s.transcript budget depth ops = some log →
    s.guarded s.Later budget depth ops = some log

section

variable {s t : Session}

theorem Session.Later.upholds {id : EngineId} {r : EngineRecord Callback} (h : s.Later t)
    (hr : s.directory.lookup id = some r) : t.Upholds id r := by
  obtain ⟨r', hr', hbecomes⟩ := h.becomes hr
  refine ⟨⟨r', hr', hbecomes⟩, fun name f hf => ?_⟩
  have hregistered : t.directory.Registered id name f := ⟨r', hr', hbecomes.functions hf⟩
  exact hregistered.dispatches

theorem perform_create_id {budget depth : Nat} {name : String} {index : Nat} {id : EngineId}
    (h : performWithin budget depth (.handle name (.create index)) s = some (.id id, t)) :
    s.directory.lookup id = none ∧ t.directory.lookup id = some { id } := by
  cases depth with
  | zero => cases h
  | succ depth =>
    obtain ⟨_, _, ⟨⟩, h⟩ := Turn.bind_eq_some_iff.1 h
    cases hforeign : s.foreigns[index]? with
    | none =>
      rw [hforeign] at h
      cases h
    | some f =>
      rw [hforeign] at h
      obtain ⟨r, hcreate, hanswer⟩ := answerHosted_eq_some_iff.1 h
      cases r with
      | error cause => cases hanswer
      | ok handle =>
        cases hanswer
        rcases Turn.run_bind_eq_some_iff.1 hcreate with ⟨_, _, ⟨⟩⟩ | ⟨made, u, hmade, hkept⟩
        cases hkept
        obtain ⟨hfree, hfiled⟩ := create_eq_ok hmade
        exact ⟨hfree, hfiled⟩

theorem perform_register_ok {budget depth : Nat} {name functionName : String}
    {f : HostFunction Callback} (hs : s.Settled)
    (h : performWithin budget depth (.handle name (.register functionName f)) s = some (.ok, t)) :
    ∃ handle, s.handles[name]? = some handle ∧
      t.directory.Registered handle.id functionName f := by
  cases depth with
  | zero => cases h
  | succ depth =>
    cases hnamed : s.handles[name]? with
    | none =>
      obtain ⟨_, _, ⟨⟩, h⟩ := Turn.bind_eq_some_iff.1 h
      rw [hnamed] at h
      cases h
    | some handle =>
      have hperform : performWithin budget (depth + 1) (.handle name (.register functionName f)) s =
          answerHosted (handle.register (Program.play (performWithin budget depth) note)
            functionName f) (fun _ => .ok) s := withHandle_of_named hnamed
      rw [hperform, answerHosted_eq_some_iff] at h
      obtain ⟨r, hregister, hanswer⟩ := h
      cases r with
      | error cause => cases hanswer
      | ok _ => exact ⟨handle, rfl, register_eq_ok (hs.handles name handle hnamed) hregister⟩

theorem Session.Settled.permanent (hs : s.Settled) : s.Permanent where
  lasts id r hr := ⟨hs.directory id r hr, fun _ hlater => hlater.upholds hr⟩
  creates budget depth name index id t h := by
    obtain ⟨hfree, hfiled⟩ := perform_create_id h
    exact ⟨hfree, hfiled, fun _ hlater => hlater.upholds hfiled⟩
  refuses go index id r t hcreate hr := ⟨createIn_directory hcreate, create_of_taken hcreate hr⟩
  registers budget depth name functionName f t h := by
    obtain ⟨handle, hnamed, r, hr, hf⟩ := perform_register_ok hs h
    exact ⟨handle, r, hnamed, hr, hf, fun _ hlater => hlater.upholds hr⟩
  goes_on budget depth ops log h :=
    Session.guarded_eq_transcript (d := .none) (I := s.Later) (fun _ => Session.kept_none)
      (fun hcourse hlater => hlater.trans hcourse.later) (fun hlater => hlater) .refl
      (fun _ _ => trivial) h

end

/-- From its start on, every session is one from which registrations are
permanent, be it in the middle of an operation, where callbacks have their
turn. -/
theorem registrations_permanent {s : Session} (hs : s.Fresh) {budget depth : Nat} {ops : List Op}
    {log : List (Answer × List Event)} (h : s.transcript budget depth ops = some log) :
    s.guarded Session.Permanent budget depth ops = some log :=
  Session.guarded_eq_transcript (d := .none) (fun _ => Session.kept_none) Course.settled
    (fun hsettled => hsettled.permanent) hs.settled (fun _ _ => trivial) h

/-! ## A name that is asked for twice -/

/-- A function that tries to take its own name again, in an engine whose identity
is handed out twice. -/
def insistingOps : List Op := [
  .handle "a" (.create 0),
  .handle "a" (.register "f" (.i32 1 fun _ =>
    .ask (.handle "a" (.register "f" (.i32 1 fun _ => .done 8))) fun _ => .done 7)),
  .handle "b" (.create 0),
  .scripted 0 (.call ⟨1⟩ "f" (.i32 [5])),
  .scripted 0 (.call ⟨1⟩ "f" (.i32 [5]))]

theorem insistingOps_permanent :
    (soleSession (.pinned {} none)).Fresh ∧
      ∃ log, (soleSession (.pinned {} none)).transcript 9 3 insistingOps = some log ∧
        (soleSession (.pinned {} none)).guarded Session.Permanent 9 3 insistingOps = some log := by
  have hfresh : (soleSession (.pinned {} none)).Fresh := soleSession_fresh rfl
  have hsome : ((soleSession (.pinned {} none)).transcript 9 3 insistingOps).isSome := by
    decide +kernel
  obtain ⟨log, hlog⟩ := Option.isSome_iff_exists.1 hsome
  exact ⟨hfresh, log, hlog, registrations_permanent hfresh hlog⟩

end EngineHost
