import EngineHost.Proofs.Session.Reports
import EngineHost.Proofs.Session.Subscription
/-
Subscriptions that are refused.  The record takes the new subscriber in before
the foreign engine is asked, and when it refuses, the record is left without
any.  So a refused subscription does what unsubscribing does: where someone was
subscribed before, through another handle, the items that come later go to
nobody.
-/
namespace EngineHost

/-! ## Sessions without a subscriber -/

namespace Session

/-- The session without the subscriber of an engine. -/
def unsubscribed (s : Session) (id : EngineId) : Session :=
  { s with directory := s.directory.adjust id ({ · with subscriber := none }) }

variable {s : Session} {id k : EngineId}

theorem subscriber?_unsubscribed :
    (s.unsubscribed id).subscriber? k = if id = k then none else s.subscriber? k := by
  split
  case isFalse h => exact subscriber?_adjust_of_ne h
  case isTrue h =>
    subst h
    unfold unsubscribed subscriber?
    rw [Directory.lookup_adjust, if_pos rfl]
    cases s.directory.lookup id <;> rfl

theorem unsubscribed_of_none (h : s.subscriber? id = none) : s.unsubscribed id = s := by
  have hdirectory : s.directory.adjust id ({ · with subscriber := none }) = s.directory := by
    refine Directory.ext_lookup fun k => ?_
    rw [Directory.lookup_adjust]
    split
    case isFalse => rfl
    case isTrue hk =>
      subst hk
      cases hr : s.directory.lookup id with
      | none => rfl
      | some r =>
        rw [subscriber?, hr, Option.bind_some] at h
        rw [Option.map_some, ← h]
  rw [unsubscribed, hdirectory]

/-- Nothing that is done later tells the two sessions apart if there was no
subscriber, and a look at the record does if there was one. -/
theorem transcript_unsubscribed_iff :
    (∀ budget depth ops, (s.unsubscribed id).transcript budget depth ops =
      s.transcript budget depth ops) ↔ s.subscriber? id = none := by
  constructor
  · intro h
    have hviews := h 0 1 [.filed id]
    have hview (u : Session) : u.transcript 0 1 [.filed id] =
        some [(.filed ((u.directory.lookup id).map (·.view)), u.events.reverse)] := rfl
    rw [hview, hview, Option.some.injEq, List.cons.injEq, Prod.mk.injEq] at hviews
    obtain ⟨⟨hviews, -⟩, -⟩ := hviews
    have hlookup : (s.unsubscribed id).directory.lookup id =
        (s.directory.lookup id).map ({ · with subscriber := none }) := by
      unfold unsubscribed
      rw [Directory.lookup_adjust, if_pos rfl]
    rw [hlookup, Answer.filed.injEq] at hviews
    unfold subscriber?
    cases hr : s.directory.lookup id with
    | none => rfl
    | some r =>
      rw [hr, Option.map_some, Option.map_some, Option.map_some, Option.some.injEq] at hviews
      have hsubscribed : false = r.subscriber.isSome := congrArg RecordView.subscribed hviews
      exact Option.isSome_eq_false_iff.1 hsubscribed.symm |> Option.isNone_iff_eq_none.1
  · intro h budget depth ops
    rw [unsubscribed_of_none h]

end Session

/-! ## Asking for a subscription -/

/-- A listener is refused for an engine that the foreign engine does not know,
and for no other. -/
theorem Foreign.listen?_eq_none_iff {f : Foreign} {id : EngineId} {entry : LogEntry} :
    f.listen? id entry = none ↔ f.lines? id = none := by
  unfold listen? lines? Tracer.listen? Scripted.listen?
  cases f <;> simp only [Option.map_eq_none_iff]

section

variable {s t : Session} {go : Callback → Run Int32} {h : Handle} {name : String}
  {subscriber : String → Callback}

/-- The answer of the foreign engine decides. -/
theorem subscribe_eq : (h.subscribe go subscriber).run s =
    match ((foreignAt h.foreign).get s).listen? h.id .dispatcher with
    | some f => some (.ok (), (foreignAt h.foreign).set f
        { s with directory := s.directory.adjust h.id ({ · with subscriber := some subscriber }) })
    | none =>
      (Handle.fail go (.logListenerRejected h.id) : Hosted Unit).run (s.unsubscribed h.id) := by
  have hasked : (h.subscribe go subscriber).run s =
      (match ((foreignAt h.foreign).get s).listen? h.id .dispatcher with
        | some f => liftM ((foreignAt h.foreign).write f)
        | none => do
          changeDirectory (·.adjust h.id ({ · with subscriber := none }))
          Handle.fail go (.logListenerRejected h.id) : Hosted Unit).run
        { s with directory := s.directory.adjust h.id ({ · with subscriber := some subscriber }) } :=
    rfl
  rw [hasked]
  split
  case h_1 f => rfl
  case h_2 =>
    -- Of the two changes of the record the second one is seen.
    rw [Turn.run_lift_bind, Turn.bind_eq_of_eq_some (changeDirectory_eq _)]
    dsimp only
    rw [Directory.adjust_subscriber]
    rfl

theorem fail_eq_some_iff {cause : BindingFault} {r : Except HostError Unit} :
    (Handle.fail go cause : Hosted Unit).run s = some (r, t) ↔
      raise go cause s = some ((), t) ∧ r = .error (.fault cause) := by
  unfold Handle.fail
  rw [Turn.run_lift_bind_eq_some_iff]
  constructor
  · intro hrun
    obtain ⟨_, _, hraise, ⟨⟩⟩ := hrun
    exact ⟨hraise, rfl⟩
  · intro hrun
    obtain ⟨hraise, rfl⟩ := hrun
    exact ⟨(), t, hraise, rfl⟩

theorem unsubscribe_eq (hnamed : s.handles[name]? = some h) (budget depth : Nat) :
    performWithin budget (depth + 1) (.handle name .unsubscribe) s =
      some (.ok, s.unsubscribed h.id) := by
  have hperform : performWithin budget (depth + 1) (.handle name .unsubscribe) s =
      answerHosted h.unsubscribe (fun _ => .ok) s := withHandle_of_named hnamed
  rw [hperform]
  rfl

/-- A subscription is refused if the foreign engine of the handle does not know
the engine, and then it does what unsubscribing does and shows the fault.  In the
session that this leaves the engine has no subscriber, and text from its log goes
to nobody.  Only where there was no subscriber before is this the session that
the subscription was asked for in, to whatever is done later. -/
theorem rejected_subscription_unsubscribes (hnamed : s.handles[name]? = some h) :
    (∀ budget depth subscriber t,
      performWithin budget (depth + 1) (.handle name (.subscribe subscriber)) s =
          some (.hostError (.fault (.logListenerRejected h.id)), t) ↔
        s.linesAt? ⟨h.foreign, h.id⟩ = none ∧
          raise (Program.play (performWithin budget depth) note) (.logListenerRejected h.id)
            (s.unsubscribed h.id) = some ((), t)) ∧
    (∀ budget depth, performWithin budget (depth + 1) (.handle name .unsubscribe) s =
      some (.ok, s.unsubscribed h.id)) ∧
    (∀ k, (s.unsubscribed h.id).subscriber? k = if h.id = k then none else s.subscriber? k) ∧
    (∀ go text, handItem go h.id text (s.unsubscribed h.id) = some ((), s.unsubscribed h.id)) ∧
    ((∀ budget depth ops, (s.unsubscribed h.id).transcript budget depth ops =
      s.transcript budget depth ops) ↔ s.subscriber? h.id = none) := by
  refine ⟨fun budget depth subscriber t => ?_, unsubscribe_eq hnamed,
    fun k => Session.subscriber?_unsubscribed, fun go text => ?_,
    Session.transcript_unsubscribed_iff⟩
  case refine_1 =>
    have hperform : performWithin budget (depth + 1) (.handle name (.subscribe subscriber)) s =
        answerHosted (h.subscribe (Program.play (performWithin budget depth) note) subscriber)
          (fun _ => .ok) s := withHandle_of_named hnamed
    have hrefused : ((foreignAt h.foreign).get s).listen? h.id .dispatcher = none ↔
        s.linesAt? ⟨h.foreign, h.id⟩ = none := Foreign.listen?_eq_none_iff
    rw [hperform, answerHosted_eq_some_iff, subscribe_eq, ← hrefused]
    cases ((foreignAt h.foreign).get s).listen? h.id .dispatcher with
    | some f =>
      constructor
      · intro hrun
        obtain ⟨_, ⟨⟩, ⟨⟩⟩ := hrun
      · intro hrun
        cases hrun.1
    | none =>
      simp only [fail_eq_some_iff, true_and]
      constructor
      · intro hrun
        obtain ⟨_, ⟨hraise, rfl⟩, -⟩ := hrun
        exact hraise
      · intro hrun
        exact ⟨_, ⟨hrun, rfl⟩, rfl⟩
  case refine_2 =>
    unfold handItem
    rw [Turn.get_bind, Session.subscriber?_unsubscribed, if_pos rfl]
    rfl

end

/-! ## A subscriber that is lost -/

/-- An engine with a subscriber, and a handle on it by way of a foreign engine
that does not know it. -/
def strayedSession : Session where
  foreigns :=
    ((∅ : Std.ExtTreeMap Nat Foreign).insert 0 (.scripted (({} : Scripted).create ⟨1⟩))).insert 1
      (.scripted {})
  directory :=
    { records := (∅ : EngineTable (EngineRecord Callback)).insert ⟨1⟩
        { id := ⟨1⟩, subscriber := some ({ tag := "first" } : Script).onItem } }
  handles := (∅ : Std.ExtTreeMap String Handle).insert "b" ⟨⟨1⟩, 1⟩

theorem strayedSession_unsubscribed :
    strayedSession.handles["b"]? = some ⟨⟨1⟩, 1⟩ ∧
      (strayedSession.subscriber? ⟨1⟩).isSome ∧
      (∃ t, performWithin 0 1 (.handle "b" (.subscribe ({ tag := "other" } : Script).onItem))
          strayedSession = some (.hostError (.fault (.logListenerRejected ⟨1⟩)), t) ∧
        t.subscriber? ⟨1⟩ = none) ∧
      ¬ ∀ budget depth ops, (strayedSession.unsubscribed ⟨1⟩).transcript budget depth ops =
        strayedSession.transcript budget depth ops := by
  have hnamed : strayedSession.handles["b"]? = some ⟨⟨1⟩, 1⟩ :=
    Std.ExtTreeMap.getElem?_insert_self
  have hsubscribed : (strayedSession.subscriber? ⟨1⟩).isSome := by decide +kernel
  obtain ⟨hrejected, -, hsubscriber, -, halike⟩ := rejected_subscription_unsubscribes hnamed
  refine ⟨hnamed, hsubscribed, ⟨strayedSession.unsubscribed ⟨1⟩, ?_, ?_⟩, fun hall => ?_⟩
  · exact (hrejected 0 0 _ _).2 ⟨rfl, rfl⟩
  · rw [hsubscriber, if_pos rfl]
  · rw [halike.1 hall] at hsubscribed
    cases hsubscribed

/-- Two scripted engines. -/
def twinSession : Session where
  foreigns := ((∅ : Std.ExtTreeMap Nat Foreign).insert 0 (.scripted {})).insert 1 (.scripted {})

/-- Emit an item for a subscriber, after something was done through a handle that
goes by way of the other foreign engine. -/
def strayingOps (ops : List (HandleOp Callback)) : List Op :=
  [.handle "a" (.create 0), listenAs "first", .handle "b" (.attach 1 ⟨1⟩)] ++
    ops.map (.handle "b") ++ [.scripted 0 (.emit ⟨1⟩ "\x7b\x7d".toUTF8)]

/-- The subscriber gets the item unless the other one was refused before. -/
theorem strayingOps_lose_subscriber :
    (twinSession.transcript 9 2 (strayingOps [])).map (·.map fun entry =>
        (entry.1.fatal?, entry.2.filterMap Event.item?)) =
      some [(none, []), (none, []), (none, []), (none, [("first", "\x7b\x7d")])] ∧
    (twinSession.transcript 9 2 (strayingOps [.subscribe ({ tag := "other" } : Script).onItem])).map
        (·.map fun entry => (entry.1.fatal?, entry.2.filterMap Event.item?)) =
      some [(none, []), (none, []), (none, []), (some (.logListenerRejected ⟨1⟩), []),
        (none, [])] := by
  decide +kernel

end EngineHost
