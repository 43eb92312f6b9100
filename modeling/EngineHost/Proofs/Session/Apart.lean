import EngineHost.Proofs.Session.Tandem
/-
Engines that do not interfere.  An engine is watched while operations on it and on
other engines are performed in any order, with one-shot executions in between.
Deleting what is not on the engine changes neither the answers nor the events of
what is left.

An operation elsewhere leaves the engine as it was.  It also runs nothing of the
engine, since it does the same in a session where the engine is any other.
-/
namespace EngineHost

/-! ## One-shot executions -/

section

variable {s : Session} (hplain : ∀ index, ((foreignAt index).get s).Plain)

include hplain

theorem executeIn_directory (budget : Nat) (go : Callback → Run Int32) (index : Nat)
    (binary : Guest.Binary) :
    Coupled (fun t _ => t.directory = s.directory) s s (executeIn budget go index binary).run
      (executeIn budget go index binary).run := by
  have halike : ((foreignAt index).get s).Alike (fun _ => True) ((foreignAt index).get s) :=
    .refl (hplain index)
  refine (executeIn_spawned halike binary).weaken fun t _ ht => ?_
  obtain ⟨slot, rfl, -⟩ := ht
  rfl

/-- A one-shot execution files no record, and changes none. -/
theorem oneShot_directory {budget depth : Nat} {op : Op} (hop : op.isOneShot) {answer : Answer}
    {t : Session} (h : performWithin budget depth op s = some (answer, t)) :
    t.directory = s.directory := by
  obtain _ | depth := depth
  case zero => cases h
  let Q (t _ : Session) : Prop := t.directory = s.directory
  have hcoupled : Coupled Q s s (performWithin budget (depth + 1) op)
      (performWithin budget (depth + 1) op) := by
    cases op with
    | executeBinary index binary =>
      refine withForeign_coupled (R := Q) (fun _ => rfl) rfl fun _ => Coupled.answerHosted ?_ _
      exact (executeIn_directory hplain budget _ index binary).ofEngine.run_bind
        fun _ _ _ h => .pure (R := Q) h _
    | foreign index op =>
      cases op with
      | execute binary =>
        exact withForeign_coupled (R := Q) (fun _ => rfl) rfl fun _ =>
          (executeIn_directory hplain budget _ index binary).answerAttempt _
      | _ => cases hop
    | _ => cases hop
  obtain ⟨_, -, hdirectory⟩ := hcoupled answer t h
  exact hdirectory

end

/-! ## Two sides of a session -/

/-- Engines on two sides of a session.  The callbacks of each side keep to it, and
those of the fault handler keep to both.  No identity is pinned. -/
structure Session.Apart (handles : Std.ExtTreeMap String Handle) (side other : EngineId → Prop)
    (s : Session) : Prop where
  disjoint : ∀ id, side id → ¬ other id
  table : s.handles = handles
  plain : ∀ index, ((foreignAt index).get s).Plain
  records : ∀ id r, s.directory.lookup id = some r →
    (side id → r.Kept (among handles side)) ∧ (other id → r.Kept (among handles other))
  handler : ∀ f, s.handler = some f → ∀ cause,
    (among handles side).callback (f cause) ∧ (among handles other).callback (f cause)

/-- Two sessions that agree in all but the engines that are not on a side. -/
structure Session.Agrees (side : EngineId → Prop) (s w : Session) : Prop
    extends s.Alike side w where
  ids : w.ids = s.ids
  handles : w.handles = s.handles
  handler : w.handler = s.handler
  events : w.events = s.events

section

variable {handles : Std.ExtTreeMap String Handle} {side other reserved : EngineId → Prop}
  {s t v w : Session}

namespace Session.Apart

theorem symm (h : s.Apart handles side other) : s.Apart handles other side where
  disjoint id hother hside := h.disjoint id hside hother
  table := h.table
  plain := h.plain
  records id r hr := (h.records id r hr).symm
  handler f hf cause := (h.handler f hf cause).symm

theorem agrees (h : s.Apart handles side other) : s.Agrees side s :=
  { Alike.refl h.plain with ids := rfl, handles := rfl, handler := rfl, events := rfl }

/-- A session is in tandem with all that agree with it in the engines of a side. -/
theorem tandem (h : s.Apart handles side other) (hw : s.Agrees side w)
    (hreserves : ∀ id, side id ∨ other id → reserved id) (hspares : s.ids.Spares reserved) :
    Tandem handles side other reserved s s w where
  alike := hw.toAlike
  table := ⟨h.table, hw.handles.trans h.table⟩
  handler := hw.handler
  records id r hid hr := (h.records id r hr).1 hid
  faults f hf cause := (h.handler f hf cause).1
  left := .refl h.plain
  disjoint := h.disjoint
  reserves := hreserves
  events := hw.events
  keeps := rfl
  since := .refl hspares
  ahead := by
    rw [hw.ids]
    exact .refl hspares

end Session.Apart

namespace Tandem

/-- After operations on one side, the sides are still apart. -/
theorem apart (h : Tandem handles side other reserved s t v) (hs : s.Apart handles side other) :
    t.Apart handles side other where
  disjoint := h.disjoint
  table := h.table.1
  plain := h.alike.plain
  records id r hr := by
    refine ⟨fun hid => h.records id r hid hr, fun hid => ?_⟩
    rw [h.left.records id hid] at hr
    exact (hs.records id r hr).2 hid
  handler f hf := by
    rw [h.keeps] at hf
    exact hs.handler f hf

theorem rebase (h : Tandem handles side other reserved s t v) :
    Tandem handles side other reserved t t v :=
  { h with left := .refl h.left.symm.plain, keeps := rfl, since := .refl h.ahead.spares_end }

/-- What the first session does on the other side, the second one can go without. -/
theorem overtaken (h : Tandem handles side other reserved s s v)
    (ht : Tandem handles other side reserved s t w) (hevents : t.events = s.events) :
    Tandem handles side other reserved t t v where
  alike := ht.left.symm.trans h.alike
  table := ⟨ht.table.1, h.table.2⟩
  handler := h.handler.trans ht.keeps.symm
  records id r hid hr := by
    rw [ht.left.records id hid] at hr
    exact h.records id r hid hr
  faults f hf := by
    rw [ht.keeps] at hf
    exact h.faults f hf
  left := .refl ht.alike.plain
  disjoint := h.disjoint
  reserves := h.reserves
  events := h.events.trans hevents.symm
  keeps := rfl
  since := .refl ht.ahead.spares_end
  ahead := h.ahead.trans ht.since

end Tandem

end

/-! ## Operations under guard -/

/-- The identity that is drawn next is not one of an engine of either side. -/
def Session.Spares (side other : EngineId → Prop) (s : Session) : Prop :=
  s.ids.Spares fun id => side id ∨ other id

section

variable {handles : Std.ExtTreeMap String Handle} {side other reserved : EngineId → Prop}
  {s t v w : Session} {budget depth : Nat} {op : Op} {answer : Answer}

/-- An operation on a side, under guard in the first of two sessions. -/
theorem Tandem.performed (h : Tandem handles side other reserved s s v)
    (hop : op.Throughout (Op.Among handles side))
    (hrun : guardWithin (·.ids.Spares reserved) budget depth op s = some (answer, t)) :
    ∃ v', performWithin budget depth op v = some (answer, v') ∧
      Tandem handles side other reserved s t v' :=
  guardWithin_coupled (tandem_congruent handles side other reserved s) budget depth hop s v h
    answer t hrun

variable (hreserves : ∀ id, side id ∨ other id → reserved id)

include hreserves

/-- A session that agrees goes along. -/
theorem Session.Apart.performed (hs : s.Apart handles side other)
    (hop : op.Throughout (Op.Among handles side)) (hw : s.Agrees side w)
    (hrun : guardWithin (·.ids.Spares reserved) budget depth op s = some (answer, t)) :
    ∃ w', performWithin budget depth op w = some (answer, w') ∧
      Tandem handles side other reserved s t w' :=
  (hs.tandem hw hreserves (guardWithin_holds hrun).1).performed hop hrun

/-- The guard does not show in the result. -/
theorem Session.Apart.unguarded (hs : s.Apart handles side other)
    (hop : op.Throughout (Op.Among handles side))
    (hrun : guardWithin (·.ids.Spares reserved) budget depth op s = some (answer, t)) :
    performWithin budget depth op s = some (answer, t) := by
  have hself := hs.tandem hs.agrees hreserves (guardWithin_holds hrun).1
  obtain ⟨t', hperform, heq, -⟩ := guardWithin_coupled
    (tandem_congruent handles side other reserved s).diagonal budget depth hop s s ⟨rfl, hself⟩
    answer t hrun
  rwa [heq] at hperform

theorem Session.Apart.goes_on (hs : s.Apart handles side other)
    (hop : op.Throughout (Op.Among handles side) ∨ op.Throughout (Op.Among handles other))
    (hrun : guardWithin (·.ids.Spares reserved) budget depth op s = some (answer, t)) :
    performWithin budget depth op s = some (answer, t) ∧
      t.takeEvents.2.Apart handles side other := by
  rcases hop with hop | hop
  · obtain ⟨_, -, ht⟩ := hs.performed hreserves hop hs.agrees hrun
    exact ⟨hs.unguarded hreserves hop hrun, (ht.noted []).apart hs⟩
  · have hswapped id (hid : other id ∨ side id) : reserved id := hreserves id hid.symm
    obtain ⟨_, -, ht⟩ := hs.symm.performed hswapped hop hs.symm.agrees hrun
    exact ⟨hs.symm.unguarded hswapped hop hrun, ((ht.noted []).apart hs.symm).symm⟩

end

/-! ## Leaving engines alone -/

/-- An operation that is not on a side, in view of that side. -/
structure Session.Bypassed (budget depth : Nat) (side other : EngineId → Prop) (s : Session)
    (op : Op) (answer : Answer) (t : Session) : Prop where
  /-- The engines of the side have the slots and the records that they had. -/
  untouched : s.Alike side t
  /-- Whatever callbacks these engines have, none is called. -/
  unheard : ∀ w, s.Agrees other w →
    ∃ t', performWithin budget depth op w = some (answer, t') ∧ t'.events = t.events
  unfiled : op.isOneShot → t.directory = s.directory

/-- Operations pass a side by, except for those that are on it. -/
def Session.Bypasses (budget depth : Nat) (side other : EngineId → Prop) (s : Session) :
    List Op → Prop
  | [] => True
  | op :: rest => ∀ answer t, performWithin budget depth op s = some (answer, t) →
    (¬ op.On s.handles side → s.Bypassed budget depth side other op answer t) ∧
      t.takeEvents.2.Bypasses budget depth side other rest

/-! ## Engines that do not interfere -/

section

variable {handles : Std.ExtTreeMap String Handle} {side other : EngineId → Prop} {op : Op}

/-- A one-shot execution is on no engine that there is. -/
theorem Op.engine?_oneShot (h : op.isOneShot) : op.engine? handles = none := by
  cases op with
  | executeBinary => rfl
  | foreign index op =>
    cases op with
    | execute => rfl
    | _ => cases h
  | _ => cases h

/-- It brings no callback. -/
theorem Op.Throughout.oneShot {allowed : Op → Prop} (h : op.isOneShot) (hop : allowed op) :
    op.Throughout allowed := by
  refine .intro hop fun c hc => ?_
  cases hc <;> cases h

variable (h : op.Throughout (Op.Among handles side) ∨ op.Throughout (Op.Among handles other))

include h

theorem Op.Throughout.own (hdisjoint : ∀ id, side id → ¬ other id) (hop : op.On handles side) :
    op.Throughout (Op.Among handles side) := by
  refine h.resolve_right fun hother => ?_
  obtain ⟨id, hid, hside⟩ := hop
  obtain ⟨hshot | ⟨id', hid', hother⟩, -⟩ := hother
  · rw [engine?_oneShot hshot] at hid
    cases hid
  · rw [hid] at hid'
    cases hid'
    exact hdisjoint id hside hother

theorem Op.Throughout.elsewhere (hop : ¬ op.On handles side) :
    op.Throughout (Op.Among handles other) := by
  rcases h with ⟨hshot | hon, -⟩ | h
  · exact .oneShot hshot (.inl hshot)
  · exact absurd hon hop
  · exact h

end

section

variable {handles : Std.ExtTreeMap String Handle} {side other : EngineId → Prop}
  {budget depth : Nat} {s v : Session}

/-- An operation elsewhere. -/
theorem Session.Apart.bypassed (hs : s.Apart handles side other) {op : Op}
    (hop : op.Throughout (Op.Among handles other)) {answer : Answer} {t : Session}
    (hrun : guardWithin (Session.Spares side other) budget depth op s = some (answer, t)) :
    s.Bypassed budget depth side other op answer t := by
  have hreserves id (hid : other id ∨ side id) : side id ∨ other id := hid.symm
  constructor
  case untouched =>
    obtain ⟨_, -, ht⟩ := hs.symm.performed hreserves hop hs.symm.agrees hrun
    exact ht.left
  case unheard =>
    intro w hw
    obtain ⟨w', hperform, ht⟩ := hs.symm.performed hreserves hop hw hrun
    exact ⟨w', hperform, ht.events⟩
  case unfiled =>
    intro hshot
    exact oneShot_directory hs.plain hshot (hs.symm.unguarded hreserves hop hrun)

section

variable {ops : List Op} (hops : ∀ op ∈ ops, op.Throughout (Op.Among handles side) ∨
    op.Throughout (Op.Among handles other))
  {log : List (Answer × List Event)}
  (hlog : s.guarded (Session.Spares side other) budget depth ops = some log)

include hops hlog

theorem Session.Apart.transcript (hs : s.Apart handles side other) :
    s.transcript budget depth ops = some log := by
  induction ops generalizing s log with
  | nil => exact hlog
  | cons op rest ih =>
    rw [List.forall_mem_cons] at hops
    obtain ⟨answer, t, tail, hrun, hrest, rfl⟩ := guarded_cons_eq_some_iff.1 hlog
    obtain ⟨hperform, ht⟩ := hs.goes_on (fun _ => id) hops.1 hrun
    exact transcript_cons_eq_some_iff.2 ⟨answer, t, tail, hperform, ih hops.2 hrest ht, rfl⟩

theorem Session.Apart.bypasses (hs : s.Apart handles side other) :
    s.Bypasses budget depth side other ops := by
  induction ops generalizing s log with
  | nil => exact trivial
  | cons op rest ih =>
    rw [List.forall_mem_cons] at hops
    obtain ⟨answer, t, tail, hrun, hrest, rfl⟩ := guarded_cons_eq_some_iff.1 hlog
    obtain ⟨hperform, ht⟩ := hs.goes_on (fun _ => id) hops.1 hrun
    intro answer' t' hperform'
    cases hperform.symm.trans hperform'
    refine ⟨fun hop => ?_, ih hops.2 hrest ht⟩
    rw [hs.table] at hop
    exact hs.bypassed (Op.Throughout.elsewhere hops.1 hop) hrun

variable [DecidablePred side]

/-- A session in tandem goes without what is not on the side. -/
theorem Tandem.transcript (hs : s.Apart handles side other)
    (h : Tandem handles side other (fun id => side id ∨ other id) s s v)
    (hevents : s.events = []) :
    v.transcript budget depth (ops.filter (·.On handles side)) =
      some (((ops.zip log).filter (·.1.On handles side)).map (·.2)) := by
  induction ops generalizing s v log with
  | nil =>
    cases hlog
    rfl
  | cons op rest ih =>
    rw [List.forall_mem_cons] at hops
    obtain ⟨answer, t, tail, hrun, hrest, rfl⟩ := Session.guarded_cons_eq_some_iff.1 hlog
    have happart := (hs.goes_on (fun _ => id) hops.1 hrun).2
    by_cases hop : op.On handles side
    case pos =>
      -- Both sessions perform the operation.
      have hown := Op.Throughout.own hops.1 hs.disjoint hop
      obtain ⟨v', hperform, ht⟩ := h.performed hown hrun
      have hrest := ih hops.2 hrest happart (ht.noted []).rebase rfl
      rw [List.filter_cons_of_pos (by simpa using hop), List.zip_cons_cons,
        List.filter_cons_of_pos (by simpa using hop), List.map_cons]
      refine Session.transcript_cons_eq_some_iff.2 ⟨answer, v', _, hperform, hrest, ?_⟩
      rw [Session.takeEvents, Session.takeEvents, ht.events]
    case neg =>
      -- Only the first session does, and the second one stays in tandem.
      have helsewhere := Op.Throughout.elsewhere hops.1 hop
      obtain ⟨_, -, ht⟩ := hs.symm.performed (fun _ => Or.symm) helsewhere hs.symm.agrees hrun
      have hrest := ih hops.2 hrest happart (h.overtaken (ht.noted []) hevents.symm) rfl
      rw [List.filter_cons_of_neg (by simpa using hop), List.zip_cons_cons,
        List.filter_cons_of_neg (by simpa using hop)]
      exact hrest

end

end

/-- Operations on the engines of one side, mingled with others.  If callbacks keep to
their side and no identity of either side is drawn again, then the operations on the
side get the answers and leave the events that they would by themselves, and all else
passes the side by. -/
theorem sides_do_not_interfere {s : Session} {side other : EngineId → Prop} [DecidablePred side]
    (hs : s.Apart s.handles side other) (hevents : s.events = []) {ops : List Op}
    (hops : ∀ op ∈ ops, op.Throughout (Op.Among s.handles side) ∨
      op.Throughout (Op.Among s.handles other))
    {budget depth : Nat} {log : List (Answer × List Event)}
    (h : s.guarded (Session.Spares side other) budget depth ops = some log) :
    s.transcript budget depth ops = some log ∧
      s.transcript budget depth (ops.filter (·.On s.handles side)) =
        some (((ops.zip log).filter (·.1.On s.handles side)).map (·.2)) ∧
      s.Bypasses budget depth side other ops := by
  refine ⟨hs.transcript hops h, ?_, hs.bypasses hops h⟩
  cases ops with
  | nil =>
    cases h
    rfl
  | cons op rest =>
    obtain ⟨answer, t, _, hrun, -, -⟩ := Session.guarded_cons_eq_some_iff.1 h
    have hself := hs.tandem hs.agrees (fun _ => id) (guardWithin_holds hrun).1
    exact hself.transcript hops h hs hevents

/-! ## Two engines that are traced in turns -/

instance {side other : EngineId → Prop} [DecidablePred side] [DecidablePred other] :
    DecidablePred (Session.Spares side other) :=
  fun s => inferInstanceAs (Decidable ¬ (side ⟨s.ids.next⟩ ∨ other ⟨s.ids.next⟩))

/-- Two engines of one tracing engine, with a handle on each. -/
def pairSession : Session where
  ids := { next := 3 }
  foreigns := (∅ : Std.ExtTreeMap Nat Foreign).insert 0
    (.tracing ((({} : Tracer).setSlot ⟨1⟩ {}).setSlot ⟨2⟩ {}))
  directory :=
    { records := ((∅ : EngineTable (EngineRecord Callback)).insert ⟨1⟩ { id := ⟨1⟩ }).insert ⟨2⟩
        { id := ⟨2⟩ } }
  handles := ((∅ : Std.ExtTreeMap String Handle).insert "a" ⟨⟨1⟩, 0⟩).insert "b" ⟨⟨2⟩, 0⟩

theorem pairSession_apart :
    pairSession.Apart pairSession.handles (· = ⟨2⟩) (· = ⟨1⟩) where
  disjoint := by
    rintro id rfl
    decide
  table := rfl
  plain index := by
    show (((∅ : Std.ExtTreeMap Nat Foreign).insert 0 _).getD index default).Plain
    rw [Std.ExtTreeMap.getD_insert]
    split <;> nofun
  records id r hr := by
    have hempty : r = { id := r.id } := by
      change (((∅ : EngineTable (EngineRecord Callback)).insert ⟨1⟩ _).insert ⟨2⟩ _)[id]? = _ at hr
      rw [Std.ExtTreeMap.getElem?_insert, Std.ExtTreeMap.getElem?_insert,
        Std.ExtTreeMap.getElem?_empty] at hr
      split at hr
      · cases hr
        rfl
      · split at hr <;> cases hr
        rfl
    rw [hempty]
    exact ⟨fun _ => EngineRecord.kept_empty _, fun _ => EngineRecord.kept_empty _⟩
  handler := nofun

/-- A guest that calls an import. -/
def onceGuest : Guest.Module where
  imports := [⟨"env", "f", .func { results := [.i32] }⟩]
  funcs := #[{ code := [.call 0, .drop] }]
  exports := [⟨"main", .func, 1⟩]

/-- Trace both engines and listen to one, with a one-shot execution in between. -/
def mingledOps : List Op := [
  .handle "a" (.register "f" (.i32 0 fun _ => .note (.called "a" []) (.done 7))),
  .handle "b" (.register "f" (.i32 0 fun _ => .note (.called "b" []) (.done 8))),
  .handle "b" (.subscribe fun item => .note (.logged "b" item) (.done 0)),
  .handle "a" (.install (.described onceGuest)),
  .handle "b" (.install (.described onceGuest)),
  .handle "a" .compute,
  .executeBinary 0 (.described { funcs := #[{}], exports := [⟨"main", .func, 0⟩] }),
  .handle "b" .compute,
  .handle "a" .compute]

theorem mingledOps_among (op : Op) (hop : op ∈ mingledOps) :
    op.Throughout (Op.Among pairSession.handles (· = ⟨2⟩)) ∨
      op.Throughout (Op.Among pairSession.handles (· = ⟨1⟩)) := by
  have ha : pairSession.handles["a"]? = some ⟨⟨1⟩, 0⟩ := by
    simp [pairSession, Std.ExtTreeMap.getElem_insert]
  have hb : pairSession.handles["b"]? = some ⟨⟨2⟩, 0⟩ := by
    simp [pairSession]
  have hown (op : HandleOp Callback) (hnames : op.names = false) :
      Op.Among pairSession.handles (· = ⟨1⟩) (.handle "a" op) ∧
        Op.Among pairSession.handles (· = ⟨2⟩) (.handle "b" op) := by
    simp [Op.Among, Op.On, Op.engine?, hnames, ha, hb]
  simp only [mingledOps, List.mem_cons, List.not_mem_nil, or_false] at hop
  rcases hop with rfl | rfl | rfl | rfl | rfl | rfl | rfl | rfl | rfl
  case inl =>
    refine .inr (.intro (hown _ rfl).1 fun _ hc => ?_)
    obtain ⟨⟨⟩⟩ := hc
    exact .note (.done 7)
  case inr.inl =>
    refine .inl (.intro (hown _ rfl).2 fun _ hc => ?_)
    obtain ⟨⟨⟩⟩ := hc
    exact .note (.done 8)
  case inr.inr.inl =>
    refine .inl (.intro (hown _ rfl).2 fun _ hc => ?_)
    obtain ⟨⟩ := hc
    exact .note (.done 0)
  -- What is left brings no callback.
  · exact .inr (.intro (hown _ rfl).1 fun _ hc => by cases hc)
  · exact .inl (.intro (hown _ rfl).2 fun _ hc => by cases hc)
  · exact .inr (.intro (hown _ rfl).1 fun _ hc => by cases hc)
  · exact .inr (.oneShot rfl (.inl rfl))
  · exact .inl (.intro (hown _ rfl).2 fun _ hc => by cases hc)
  · exact .inr (.intro (hown _ rfl).1 fun _ hc => by cases hc)

theorem mingledOps_undisturbed :
    pairSession.Apart pairSession.handles (· = ⟨2⟩) (· = ⟨1⟩) ∧ pairSession.events = [] ∧
      (∀ op ∈ mingledOps, op.Throughout (Op.Among pairSession.handles (· = ⟨2⟩)) ∨
        op.Throughout (Op.Among pairSession.handles (· = ⟨1⟩))) ∧
      ∃ log, pairSession.guarded (Session.Spares (· = ⟨2⟩) (· = ⟨1⟩)) 20 3 mingledOps = some log ∧
        log.map (·.2.length) = [0, 0, 0, 0, 0, 1, 0, 2, 1] ∧
        pairSession.transcript 20 3 mingledOps = some log ∧
        pairSession.transcript 20 3
            (mingledOps.filter (·.On pairSession.handles (· = ⟨2⟩))) =
          some (((mingledOps.zip log).filter (·.1.On pairSession.handles (· = ⟨2⟩))).map (·.2)) ∧
        pairSession.Bypasses 20 3 (· = ⟨2⟩) (· = ⟨1⟩) mingledOps := by
  have hevents : (pairSession.guarded (Session.Spares (· = ⟨2⟩) (· = ⟨1⟩)) 20 3 mingledOps).map
      (·.map (·.2.length)) = some [0, 0, 0, 0, 0, 1, 0, 2, 1] := by
    rw [Session.guarded_eq_checked]
    decide +kernel
  obtain ⟨log, hlog, hevents⟩ := Option.map_eq_some_iff.1 hevents
  exact ⟨pairSession_apart, rfl, mingledOps_among, log, hlog, hevents,
    sides_do_not_interfere pairSession_apart rfl mingledOps_among hlog⟩

/-! ## Ways to interfere -/

/-- What an answer says in numbers. -/
def Answer.numbers : Answer → List Nat
  | .number n => [n.toBitVec.toNat]
  | .memory data => data.data.toList.map (·.toNat)
  | _ => []

/-- The answers to operations on the second of three engines, first among others and
then by themselves.  Some operations come before in both runs. -/
def secondAnswers (before ops : List Op) : Option (List (List Nat) × List (List Nat)) := do
  let (_, s) ← (soleSession (.scripted { memorySize := 2 })).after 9 4 ([
    .handle "a" (.create 0), .handle "b" (.create 0), .handle "c" (.create 0)] ++ before)
  let log ← s.transcript 9 4 ops
  let alone ← s.transcript 9 4 (ops.filter (·.On s.handles (· = ⟨2⟩)))
  return (((ops.zip log).filter (·.1.On s.handles (· = ⟨2⟩))).map (·.2.1.numbers),
    alone.map (·.1.numbers))

/-- Patch the second engine. -/
def patching : Callback := .ask (.handle "b" (.patch 0 1 ⟨#[7]⟩)) fun _ => .done 0

/-- Emit an item of the third engine's. -/
def emitting : Callback := .ask (.scripted 0 (.emit ⟨3⟩ "\x7b\x7d".toUTF8)) fun _ => .done 0

/-- Make an engine and give its identity away. -/
def founding : Callback := .ask (.handle "d" (.create 0)) fun
  | .id id => .done id.val.toInt32
  | _ => .done 0

/-- An engine is reached by way of a third one, of the identities that are left, and of
the fault handler.  The callbacks of one engine do not operate on the other. -/
theorem engines_interfere :
    (∀ handles, emitting.Throughout fun op => ¬ op.On handles (· = ⟨2⟩)) ∧
    secondAnswers [.handle "c" (.subscribe fun _ => patching)] [
        .handle "a" (.register "f" (.i32 0 fun _ => emitting)),
        .scripted 0 (.call ⟨1⟩ "f" (.i32 [])),
        .handle "b" .memory] =
      some ([[7, 0]], [[0, 0]]) ∧
    (∀ handles, founding.Throughout fun op => ¬ op.On handles (· = ⟨1⟩)) ∧
    secondAnswers [.handle "b" (.register "f" (.i32 0 fun _ => founding))] [
        .executeBinary 0 (.described {}),
        .scripted 0 (.call ⟨2⟩ "f" (.i32 []))] =
      some ([[5]], [[4]]) ∧
    secondAnswers [.setHandler fun _ => patching] [
        .handle "a" (.subscribe fun _ => .done 0),
        .scripted 0 (.emit ⟨1⟩ ⟨#[0xff]⟩),
        .handle "b" .memory] =
      some ([[7, 0]], [[0, 0]]) := by
  refine ⟨fun handles => ?_, by decide +kernel, fun handles => ?_, by decide +kernel,
    by decide +kernel⟩
  · refine .ask (.intro (fun h => ?_) nofun) fun _ => .done 0
    obtain ⟨_, ⟨⟩, heq⟩ := h
    cases heq
  · refine .ask (.intro (fun h => ?_) nofun) fun a => ?_
    · obtain ⟨_, ⟨⟩, _⟩ := h
    · cases a <;> exact .done _

end EngineHost
