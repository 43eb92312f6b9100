import EngineHost.Proofs.Session.Listening
import EngineHost.Proofs.Tracer.Coupling
import EngineHost.Session.Script
/-
Log items and the subscriber.  The subscriber that an item goes to is looked up
when the item is there, so it is the one installed at that moment, whoever was
subscribed before or will be after.  What could stand between the item and the
subscriber is the way there: a listener that is not armed, or one that leads to
no record.  It does not happen to text from an engine that is armed through
handles only.

An execution copies the listener when it begins.  So what is said here of an
execution is said of one that begins with an armed listener.
-/
namespace EngineHost

/-! ## Handing items over -/

section

variable (go : Callback → Run Int32)

/-- Run the subscriber that is installed at this moment, if there is one, on an
item. -/
def handItem (id : EngineId) (text : String) : Run Unit := do
  match (← get).subscriber? id with
  | some subscriber =>
    let _ ← go (subscriber text)
  | none => return

/-- A host to which the way is never barred.  Text that comes in through the
dispatcher's entry is handed to the subscriber without any further question. -/
def handingHost : Host Session where
  enter := (sessionHost go).enter
  deliver entry id item :=
    match entry with
    | .dispatcher =>
      match String.fromUTF8? item with
      | some text => do
        handItem go id text
        return .ok ()
      | none => dispatchItem go id item
    | entry => (sessionHost go).deliver entry id item

end

section

variable {go : Callback → Run Int32} {s : Session} {id : EngineId}

/-- With a record at hand, text is handed over. -/
theorem dispatchItem_of_text {item : ByteArray} {text : String}
    (hrecord : (s.directory.lookup id).isSome) (htext : String.fromUTF8? item = some text) :
    dispatchItem go id item s = (do
      handItem go id text
      return .ok () : Run _) s := by
  obtain ⟨r, hr⟩ := Option.isSome_iff_exists.1 hrecord
  have hsubscriber : s.subscriber? id = r.subscriber := by rw [Session.subscriber?, hr]; rfl
  have hitem : (do runItem go (← get).directory id item : Run _) s =
      (do
        handItem go id text
        return .ok () : Run _) s := by
    unfold handItem runItem
    rw [Turn.get_bind, bind_assoc, Turn.get_bind, hsubscriber]
    unfold Directory.resolveItem
    rw [hr]
    simp only [htext]
    cases r.subscriber with
    | none => rfl
    | some subscriber =>
      dsimp only [Option.map_some]
      rw [bind_assoc]
      rfl
  unfold dispatchItem
  rw [reporting_of_ok, hitem]
  intro r t hrun
  rw [hitem] at hrun
  obtain ⟨_, _, _, ⟨⟩⟩ := Turn.bind_eq_some_iff.1 hrun
  exact ⟨(), rfl⟩

/-- What is not text is refused, subscriber or not. -/
theorem dispatchItem_of_malformed {item : ByteArray} (hrecord : (s.directory.lookup id).isSome)
    (hitem : String.fromUTF8? item = none) :
    dispatchItem go id item s = (do
      raise go (.malformedLogItem id)
      return .error (.malformedLogItem id) : Run _) s := by
  obtain ⟨r, hr⟩ := Option.isSome_iff_exists.1 hrecord
  have hresolve : s.directory.resolveItem id item = .error (.malformedLogItem id) := by
    unfold Directory.resolveItem
    rw [hr]
    simp only [hitem]
  have hrun : (do runItem go (← get).directory id item : Run _) s =
      some (.error (.malformedLogItem id), s) := by
    rw [Turn.get_bind]
    unfold runItem
    rw [hresolve]
    rfl
  exact Turn.bind_eq_of_eq_some hrun

end

/-! ## Executions -/

section

variable {budget depth : Nat} {id : EngineId}

/-- Where a record is, and stays, the host hands over what the dispatcher is given. -/
theorem hostsAlike_handing (slot : TracerSlot) :
    HostsAlike (fun s x => x = s ∧ (s.directory.lookup id).isSome) id id slot
      (hostWithin budget depth) (handingHost (Program.play (performWithin budget depth) note)) := by
  have hcompanions := companions_within (Nat.le_refl budget) (Nat.le_refl depth)
  constructor
  · intro name b _ args s x hs r t hrun
    obtain ⟨rfl, hrecord⟩ := hs
    obtain ⟨-, js, hcourse⟩ := enter_proceeds hcompanions trivial b.entry id name _ r t hrun
    exact ⟨t, hrun, rfl, hcourse.directory_grows.isSome hrecord⟩
  · intro entry _ item s x hs r t hrun
    obtain ⟨rfl, hrecord⟩ := hs
    obtain ⟨-, js, hcourse⟩ := deliver_proceeds hcompanions trivial entry id item r t hrun
    refine ⟨t, ?_, rfl, hcourse.directory_grows.isSome hrecord⟩
    cases entry with
    | standalone => exact hrun
    | dispatcher =>
      dsimp only [handingHost]
      cases htext : String.fromUTF8? item with
      | none => exact hrun
      | some text => exact (dispatchItem_of_text hrecord htext).symm.trans hrun

theorem placesAlike_handing {here : Place Session Tracer}
    (hsame : ∀ s tracer, (here.set tracer s).directory = s.directory) :
    PlacesAlike (fun s x => x = s ∧ (s.directory.lookup id).isSome) id here here := by
  constructor
  · intro s x hs
    rw [hs.1]
    exact .refl
  · intro s x slot hs
    rw [hs.1, hsame]
    exact ⟨rfl, hs.2⟩

end

/-! ## The log of an engine -/

/-- What becomes of the items of an engine's log from here on. -/
structure Session.Heeds (s : Session) (site : Site) : Prop where
  /-- Text that a scripted engine emits is handed over. -/
  emits : ∀ e, ((foreignAt site.foreign).get s).scripted? = some e → ∀ go text,
    e.emit (sessionHost go) site.id text.toUTF8 s = (do
      handItem go site.id text
      return .ok () : Run _) s
  /-- What is not text goes to nobody, and it is a fault if the listener is
  armed. -/
  refuses : ∀ e, ((foreignAt site.foreign).get s).scripted? = some e → ∀ go item,
    String.fromUTF8? item = none → e.emit (sessionHost go) site.id item s =
      if (e.listener? site.id).isSome then (do
        raise go (.malformedLogItem site.id)
        return .error (.malformedLogItem site.id) : Run _) s
      else some (.ok (), s)
  /-- An execution that begins while a subscriber is installed is armed. -/
  armed : ∀ slot, s.slotAt? site = some slot → (s.subscriber? site.id).isSome →
    slot.listener.isSome
  /-- An armed execution hands over all of its items. -/
  computes : ∀ slot, s.slotAt? site = some slot → slot.listener.isSome →
    ∀ steps budget depth r t,
      (Tracer.compute steps (hostWithin budget depth) (foreignAt site.foreign).tracer site.id).run s =
        some (r, t) →
      (Tracer.compute steps (handingHost (Program.play (performWithin budget depth) note))
        (foreignAt site.foreign).tracer site.id).run s = some (r, t)
  /-- It does so for each call, once the entry of the call has returned. -/
  serves : ∀ slot m, s.slotAt? site = some slot → slot.listener.isSome → ∀ go name b args trace,
    serve (handingHost go) (slot.planOf site.id m) name b args trace = (do
      match ← (sessionHost go).enter b.entry site.id name (marshal site.id b.entry.path args) with
      | .error cause => return (.error cause, trace)
      | .ok value =>
        let item := b.itemOf (slot.planOf site.id m) trace name args value
        handItem go site.id item.json
        return (.ok (resultValues (b.result? value)), trace.extend item))

section

variable {s : Session} {site : Site} {created : List Site}

/-- Serving a call for an armed engine under a host that hands items over. -/
theorem serve_handing {plan : Plan} (hlistener : plan.listener = some .dispatcher)
    (go : Callback → Run Int32) (name : String) (b : Binding) (args : List Guest.Value)
    (trace : Trace) :
    serve (handingHost go) plan name b args trace = (do
      match ← (sessionHost go).enter b.entry plan.engine name
        (marshal plan.engine b.entry.path args) with
      | .error cause => return (.error cause, trace)
      | .ok value =>
        let item := b.itemOf plan trace name args value
        handItem go plan.engine item.json
        return (.ok (resultValues (b.result? value)), trace.extend item)) := by
  unfold serve
  refine congrArg (_ >>= ·) (funext fun answer => ?_)
  cases answer with
  | error cause => rfl
  | ok value =>
    unfold recordCall
    rw [hlistener]
    dsimp only [handingHost]
    rw [fromUTF8?_toUTF8]
    dsimp only
    rw [bind_assoc, bind_assoc]
    rfl

theorem Session.Listening.emit (hs : s.Listening site created) (hdistinct : Distinct created)
    (hsite : site ∈ created) {e : Scripted}
    (he : ((foreignAt site.foreign).get s).scripted? = some e) :
    (e.listener? site.id = none ∧ s.subscriber? site.id = none) ∨
      e.listener? site.id = some .dispatcher ∧ (s.directory.lookup site.id).isSome := by
  have hlistener : e.listener? site.id = (s.listenerAt? site).join := by
    unfold Session.listenerAt? Foreign.listener? Foreign.lines? Scripted.listener?
    cases hf : (foreignAt site.foreign).get s with
    | tracing =>
      rw [hf] at he
      cases he
    | scripted | pinned =>
      rw [hf] at he
      cases he
      dsimp only
      cases e.slots[site.id]? <;> rfl
  cases hl : e.listener? site.id with
  | none =>
    refine .inl ⟨rfl, ?_⟩
    cases hf : s.subscriber? site.id with
    | none => rfl
    | some f =>
      rw [hs.armed hdistinct hsite hf, hl] at hlistener
      cases hlistener
  | some entry =>
    rw [hl, eq_comm, Option.join_eq_some_iff] at hlistener
    obtain ⟨rfl, hrecord⟩ := hs.dispatched entry hlistener
    exact .inr ⟨rfl, hrecord⟩

theorem Session.Listening.heeds (hs : s.Listening site created) (hdistinct : Distinct created)
    (hsite : site ∈ created) : s.Heeds site := by
  have hslot {slot : TracerSlot} (hslot : s.slotAt? site = some slot)
      (hlistener : slot.listener.isSome) :
      slot.listener = some .dispatcher ∧ (s.directory.lookup site.id).isSome := by
    obtain ⟨entry, hentry⟩ := Option.isSome_iff_exists.1 hlistener
    have hat := Session.listenerAt?_of_slotAt? hslot
    rw [hentry] at hat ⊢
    obtain ⟨rfl, hrecord⟩ := hs.dispatched entry hat
    exact ⟨rfl, hrecord⟩
  constructor
  case emits =>
    intro e he go text
    unfold Scripted.emit
    rcases hs.emit hdistinct hsite he with ⟨hnone, hsubscriber⟩ | ⟨hentry, hrecord⟩
    · rw [hnone]
      unfold handItem
      rw [bind_assoc, Turn.get_bind, hsubscriber]
      rfl
    · rw [hentry]
      exact dispatchItem_of_text hrecord (fromUTF8?_toUTF8 text)
  case refuses =>
    intro e he go item hitem
    unfold Scripted.emit
    rcases hs.emit hdistinct hsite he with ⟨hnone, -⟩ | ⟨hentry, hrecord⟩
    · rw [hnone]
      rfl
    · rw [hentry, Option.isSome_some, if_pos rfl]
      exact dispatchItem_of_malformed hrecord hitem
  case armed =>
    intro slot hat hf
    obtain ⟨f, hf⟩ := Option.isSome_iff_exists.1 hf
    have harmed := hs.armed hdistinct hsite hf
    rw [Session.listenerAt?_of_slotAt? hat, Option.some.injEq] at harmed
    rw [harmed, Option.isSome_some]
  case computes =>
    intro slot hat hlistener steps budget depth r t hrun
    obtain ⟨-, hrecord⟩ := hslot hat hlistener
    obtain ⟨x, hrun', rfl, -⟩ := Tracer.compute_coupled hostsAlike_handing
      (placesAlike_handing fun _ _ => rfl) steps s s ⟨rfl, hrecord⟩ r t hrun
    exact hrun'
  case serves =>
    intro slot m hat hlistener go name b args trace
    exact serve_handing (hslot hat hlistener).1 go name b args trace

end

/-- A session that another one has come to, where the log of an engine is heeded
unless an identity was handed out twice on the way. -/
structure Session.HeedsSince (site : Site) (s t : Session) : Prop where
  course : ∃ js, Course (armsByHandle site) s js t
  heeds : ∀ js, Course (armsByHandle site) s js t → Distinct (Journal.created js) →
    site ∈ Journal.created js → t.Heeds site

/-- While an engine is armed through handles only, by the session and by its
callbacks, its log is heeded in every session that the run passes through. -/
theorem log_follows_subscription {s : Session} (hs : s.Fresh) {site : Site} {ops : List Op}
    (hops : ∀ op ∈ ops, op.Throughout (Op.ArmsByHandle site)) {budget depth : Nat}
    {log : List (Answer × List Event)} (h : s.transcript budget depth ops = some log) :
    s.guarded (s.HeedsSince site) budget depth ops = some log := by
  refine Session.guarded_eq_transcript (d := armsByHandle site)
    (I := fun t => t.Kept (armsByHandle site) ∧ ∃ js, Course (armsByHandle site) s js t)
    (fun ht => ht.1) (fun hcourse ht => ?_) (fun ht => ?_) ⟨hs.kept, [], .nil s⟩ hops h
  · obtain ⟨hkept, js, hbefore⟩ := ht
    exact ⟨hcourse.kept hkept, _, hbefore.trans hcourse⟩
  · refine ⟨ht.2, fun js hcourse hdistinct hsite => ?_⟩
    exact (hcourse.listening hs.settled hs.listening hdistinct).heeds hdistinct hsite

/-! ## A subscriber that hands over to another -/

/-- An item that a subscriber got, under the name it goes by. -/
def Event.item? : Event → Option (String × String)
  | .logged tag item => some (tag, item)
  | _ => none

/-- A guest that calls an import twice. -/
def pairGuest : Guest.Module where
  imports := [⟨"env", "f", .func { results := [.i32] }⟩]
  funcs := #[{ code := [.call 0, .drop, .call 0, .drop] }]
  exports := [⟨"main", .func, 1⟩]

/-- Subscribe to the log of the engine, with nothing else to do. -/
def listenAs (tag : String) : Op := .handle "a" (.subscribe ({ tag } : Script).onItem)

/-- Run the guest with a subscriber that gives way to another at the first item. -/
def yieldingOps : List Op := [
  .handle "a" (.create 0),
  .handle "a" (.register "f" (.i32 0 fun _ => .done 7)),
  .handle "a" (.subscribe
    ({ tag := "first", steps := [fun _ => listenAs "second"] } : Script).onItem),
  .handle "a" (.install (.described pairGuest)),
  .handle "a" .compute]

theorem yieldingOps_armsByHandle (site : Site) :
    ∀ op ∈ yieldingOps, op.Throughout (Op.ArmsByHandle site) := by
  simp only [yieldingOps, List.forall_mem_cons]
  refine ⟨.intro trivial ?_, .intro trivial ?_, .intro trivial ?_, .intro trivial ?_,
    .intro trivial ?_, nofun⟩
  case refine_2 =>
    intro _ h
    obtain ⟨⟨⟩⟩ := h
    exact .done 7
  case refine_3 =>
    intro _ h
    obtain ⟨⟩ := h
    refine .note (.ask (.intro trivial fun _ h => ?_) fun _ => .note (.done 0))
    obtain ⟨⟩ := h
    exact .note (.done 0)
  all_goals
    intro _ heq
    cases heq

/-- Each subscriber gets the item of its moment, and no other. -/
theorem yieldingOps_followed :
    (tracingSession {}).Fresh ∧
      (∀ op ∈ yieldingOps, op.Throughout (Op.ArmsByHandle ⟨0, ⟨1⟩⟩)) ∧
      (∃ log, (tracingSession {}).transcript 20 4 yieldingOps = some log ∧
        log.map (·.2.filterMap Event.item?) = [[], [], [], [], [
          ("first", "\x7b\"index\":0,\"import\":\"f\",\"params\":[],\"result\":7\x7d"),
          ("second", "\x7b\"index\":1,\"import\":\"f\",\"params\":[],\"result\":7\x7d")]] ∧
        (tracingSession {}).guarded ((tracingSession {}).HeedsSince ⟨0, ⟨1⟩⟩) 20 4 yieldingOps =
          some log) ∧
      ∃ t, Course (armsByHandle ⟨0, ⟨1⟩⟩) (tracingSession {}) [(⟨0, ⟨1⟩⟩, .created)] t ∧
        Distinct (Journal.created [(⟨0, ⟨1⟩⟩, .created)]) ∧
        ⟨0, ⟨1⟩⟩ ∈ Journal.created [(⟨0, ⟨1⟩⟩, .created)] := by
  have hfresh := tracingSession_fresh {}
  have hops := yieldingOps_armsByHandle ⟨0, ⟨1⟩⟩
  have hitems : ((tracingSession {}).transcript 20 4 yieldingOps).map
      (·.map (·.2.filterMap Event.item?)) = some [[], [], [], [], [
        ("first", "\x7b\"index\":0,\"import\":\"f\",\"params\":[],\"result\":7\x7d"),
        ("second", "\x7b\"index\":1,\"import\":\"f\",\"params\":[],\"result\":7\x7d")]] := by
    decide +kernel
  obtain ⟨log, hlog, hitems⟩ := Option.map_eq_some_iff.1 hitems
  refine ⟨hfresh, hops, ⟨log, hlog, hitems, log_follows_subscription hfresh hops hlog⟩, ?_⟩
  exact ⟨_, .one (.created 0 ⟨1⟩ _ _ rfl), by decide, List.mem_singleton_self _⟩

/-! ## Items that nobody hears -/

/-- What a trace says, if it is text. -/
def Answer.traceText? : Answer → Option String
  | .trace result => result.payload?.bind String.fromUTF8?
  | _ => none

/-- The fault that an answer is, if it is one. -/
def Answer.fault? : Answer → Option BindingFault
  | .fault cause => some cause
  | _ => none

/-- Run the guest with a function that subscribes when it is called. -/
def lateOps : List Op := [
  .handle "a" (.create 0),
  .handle "a" (.register "f" (.i32 0 fun _ => .ask (listenAs "late") fun _ => .done 7)),
  .handle "a" (.install (.described pairGuest)),
  .handle "a" .compute]

/-- Emit what is not text when the only subscriber has left. -/
def emptiedOps : List Op := [
  .handle "a" (.create 0),
  listenAs "gone",
  .handle "a" .unsubscribe,
  .scripted 0 (.emit ⟨1⟩ ⟨#[0xff]⟩)]

/-- What the trace of the late run says. -/
def lateText : String :=
  "\x7b\"global_memory\":[],\"memory_changes\":[],\"logs\":[" ++
    "\x7b\"index\":0,\"import\":\"f\",\"params\":[],\"result\":7\x7d," ++
    "\x7b\"index\":1,\"import\":\"f\",\"params\":[],\"result\":7\x7d]\x7d"

/-- A subscriber that comes while an execution without a listener is under way
hears nothing of it, although it is there when the items are.  And what is not
text is a fault although there is no one to hear it. -/
theorem items_unheard :
    (∃ done s, (tracingSession {}).after 20 3 lateOps = some (done, s) ∧
      (s.subscriber? ⟨1⟩).isSome ∧ done.getLast?.bind (·.2.traceText?) = some lateText) ∧
    ((tracingSession {}).transcript 20 3 lateOps).map (·.map (·.2.filterMap Event.item?)) =
      some [[], [], [], []] ∧
    ((soleSession (.scripted {})).transcript 9 3 emptiedOps).map (·.map (·.1.fault?)) =
      some [none, none, none, some (.malformedLogItem ⟨1⟩)] := by
  refine ⟨?late, by decide +kernel, by decide +kernel⟩
  have hlate : ((tracingSession {}).after 20 3 lateOps).any fun x =>
      (x.2.subscriber? ⟨1⟩).isSome && x.1.getLast?.bind (·.2.traceText?) = some lateText := by
    decide +kernel
  obtain ⟨⟨done, s⟩, hafter, hlate⟩ := (Option.any_eq_true _ _).1 hlate
  rw [Bool.and_eq_true, decide_eq_true_iff] at hlate
  exact ⟨done, s, hafter, hlate⟩

end EngineHost
