import EngineHost.Proofs.Session.Guarding
import EngineHost.Proofs.Session.OneShot
/-
Operations on the engines of a side, performed in two sessions in which these
engines are the same.  The answers are the same, and whatever relates the two
sessions goes on to relate them, if it is kept by the few things that such an
operation does to a session.

This holds of callbacks at any depth, since the callbacks of a side ask for
operations on that side only.  A guest reaches no other engine than its own.
-/
namespace EngineHost

/-! ## Operations on one engine -/

def ForeignOp.engine? : ForeignOp → Option EngineId
  | .install id _ | .compute id | .memory id | .patch id _ _ _ | .bind id _ _ | .listen id _ =>
    some id
  | .create | .execute _ | .config => none

def ScriptedOp.engine : ScriptedOp → EngineId
  | .setOutput id _ | .refuse id | .binary id | .imports id | .armed id | .call id _ _
  | .emit id _ => id

/-- Whether an operation gives a name a handle. -/
def HandleOp.names {ρ : Type} : HandleOp ρ → Bool
  | .create _ | .attach _ _ | .copy _ => true
  | _ => false

/-- The engine that an operation is on, by the handles that there are. -/
def Op.engine? (handles : Std.ExtTreeMap String Handle) : Op → Option EngineId
  | .handle name op => if op.names then none else (handles[name]?).map (·.id)
  | .foreign _ op => op.engine?
  | .scripted _ op => some op.engine
  | .enter id _ _ | .deliver id _ | .filed id => some id
  | .desk _ | .executeBinary _ _ | .setHandler _ | .clearHandler => none

/-- Whether an operation runs a binary in an engine made for it. -/
def Op.isOneShot : Op → Bool
  | .executeBinary _ _ | .foreign _ (.execute _) => true
  | _ => false

/-- An operation on an engine of a side. -/
def Op.On (handles : Std.ExtTreeMap String Handle) (side : EngineId → Prop) (op : Op) : Prop :=
  ∃ id, op.engine? handles = some id ∧ side id

instance {handles : Std.ExtTreeMap String Handle} {side : EngineId → Prop} [DecidablePred side]
    (op : Op) : Decidable (op.On handles side) :=
  decidable_of_iff ((op.engine? handles).any (side ·)) (by simp [Op.On, Option.any_eq_true])

/-- An operation on an engine of a side, or a one-shot execution. -/
def Op.Among (handles : Std.ExtTreeMap String Handle) (side : EngineId → Prop) (op : Op) : Prop :=
  op.isOneShot ∨ op.On handles side

theorem Op.Among.handle {handles : Std.ExtTreeMap String Handle} {side : EngineId → Prop}
    {name : String} {op : HandleOp Callback} (h : Op.Among handles side (.handle name op)) :
    op.names = false ∧ ∀ h : Handle, handles[name]? = some h → side h.id := by
  rcases h with hshot | ⟨id, hid, hside⟩
  · cases hshot
  simp only [Op.engine?, Option.ite_none_left_eq_some, Option.map_eq_some_iff] at hid
  obtain ⟨hnames, handle, hhandle, rfl⟩ := hid
  refine ⟨by simpa using hnames, fun found hfound => ?_⟩
  rw [hhandle] at hfound
  cases hfound
  exact hside

/-- The discipline of such operations. -/
abbrev among (handles : Std.ExtTreeMap String Handle) (side : EngineId → Prop) : Discipline :=
  .throughout (Op.Among handles side)

/-! ## Relations of two sessions -/

/-- Two sessions in which the engines of a side are the same, with callbacks that
keep to the side. -/
structure Paired (handles : Std.ExtTreeMap String Handle) (side : EngineId → Prop)
    (s s' : Session) : Prop where
  alike : s.Alike side s'
  table : s.handles = handles ∧ s'.handles = handles
  handler : s'.handler = s.handler
  records : ∀ id r, side id → s.directory.lookup id = some r → r.Kept (among handles side)
  faults : ∀ f, s.handler = some f → ∀ cause, (among handles side).callback (f cause)

/-- A relation of sessions that is kept by what operations on a side do.  After
an engine is made, the first session has to have the property `P`. -/
structure Congruent (handles : Std.ExtTreeMap String Handle) (side : EngineId → Prop)
    (P : Session → Prop) (R : Session → Session → Prop) : Prop where
  paired : ∀ {s s'}, R s s' → Paired handles side s s'
  /-- A foreign engine is of the same make in all sessions. -/
  makes : ∀ {s s' t t'}, R s s' → R t t' → ∀ index,
    ((foreignAt index).get s).Alike (fun _ => False) ((foreignAt index).get t)
  noted : ∀ {s s'}, R s s' → ∀ e,
    R { s with events := e :: s.events } { s' with events := e :: s'.events }
  held : ∀ {s s'}, R s s' → ∀ {id}, side id → ∀ {index : Nat}, (s.foreigns[index]?).isSome →
    ∀ slot, R (s.setForeign index (((foreignAt index).get s).hold id slot))
      (s'.setForeign index (((foreignAt index).get s').hold id slot))
  adjusted : ∀ {s s'}, R s s' → ∀ {id}, side id →
    ∀ {f : EngineRecord Callback → EngineRecord Callback},
      (∀ r, s.directory.lookup id = some r → (f r).Kept (among handles side)) →
      R { s with directory := s.directory.adjust id f }
        { s' with directory := s'.directory.adjust id f }
  spawned : ∀ {s s'}, R s s' → ∀ {index : Nat}, (s.foreigns[index]?).isSome → ∀ slot,
    P (s.spawn index slot) → R (s.spawn index slot) (s'.spawn index slot)

theorem Congruent.foreigns {handles : Std.ExtTreeMap String Handle} {side : EngineId → Prop}
    {P : Session → Prop} {R : Session → Session → Prop} (hR : Congruent handles side P R)
    {s s' : Session} (h : R s s') (index : Nat) :
    ((foreignAt index).get s).Alike side ((foreignAt index).get s') :=
  (hR.paired h).alike.foreigns index

/-- The relation of the sessions that are related to themselves. -/
theorem Congruent.diagonal {handles : Std.ExtTreeMap String Handle} {side : EngineId → Prop}
    {P : Session → Prop} {R : Session → Session → Prop} (hR : Congruent handles side P R) :
    Congruent handles side P fun s s' => s' = s ∧ R s s := by
  constructor
  case paired =>
    intro s s' h
    obtain ⟨rfl, h⟩ := h
    exact hR.paired h
  case makes =>
    intro s s' t t' h h'
    exact hR.makes h.2 h'.2
  case noted =>
    intro s s' h e
    obtain ⟨rfl, h⟩ := h
    exact ⟨rfl, hR.noted h e⟩
  case held =>
    intro s s' h id hid index hthere slot
    obtain ⟨rfl, h⟩ := h
    exact ⟨rfl, hR.held h hid hthere slot⟩
  case adjusted =>
    intro s s' h id hid f hf
    obtain ⟨rfl, h⟩ := h
    exact ⟨rfl, hR.adjusted h hid hf⟩
  case spawned =>
    intro s s' h index hthere slot hP
    obtain ⟨rfl, h⟩ := h
    exact ⟨rfl, hR.spawned h hthere slot hP⟩

namespace Directory

variable {dir dir' : Directory Callback} {id : EngineId}

/-- Resolving looks at one record only. -/
theorem resolve_congr (h : dir'.lookup id = dir.lookup id) (name : String) (call : RawCall) :
    dir'.resolve id name call = dir.resolve id name call := by
  unfold resolve functionOf
  rw [h]

theorem resolveItem_congr (h : dir'.lookup id = dir.lookup id) (item : ByteArray) :
    dir'.resolveItem id item = dir.resolveItem id item := by
  unfold resolveItem
  rw [h]

end Directory

namespace Coupled

variable {R : Session → Session → Prop} {s s' : Session} {α : Type}

theorem ofEngine {a b : Attempt Session α} (h : Coupled R s s' a.run b.run) :
    Coupled R s s' (Hosted.ofEngine a).run (Hosted.ofEngine b).run :=
  h.bind fun _ _ _ h => .pure h _

theorem answerHosted {a b : Hosted α} (h : Coupled R s s' a.run b.run) (answer : α → Answer) :
    Coupled R s s' (answerHosted a answer) (EngineHost.answerHosted b answer) :=
  h.bind fun r _ _ h => by cases r <;> exact .pure h _

theorem answerAttempt {a b : Attempt Session α} (h : Coupled R s s' a.run b.run)
    (answer : α → Answer) :
    Coupled R s s' (answerAttempt a answer) (EngineHost.answerAttempt b answer) :=
  h.bind fun r _ _ h => by cases r <;> exact .pure h _

end Coupled

section

variable {handles : Std.ExtTreeMap String Handle} {side : EngineId → Prop} {P : Session → Prop}
  {R : Session → Session → Prop} (hR : Congruent handles side P R) {go go' : Callback → Run Int32}
  (hgo : ∀ c, (among handles side).callback c → CoupledIn R (go c) (go' c))

include hR

/-! ## Calls and items -/

theorem note_coupled (e : Event) : CoupledIn R (note e) (note e) := by
  intro s s' h r t hrun
  cases hrun
  exact ⟨_, rfl, hR.noted h e⟩

section

include hgo

theorem raise_coupled (cause : BindingFault) :
    CoupledIn R (raise go cause) (raise go' cause) := by
  intro s s' h
  unfold raise
  refine .step rfl rfl ?_
  rw [(hR.paired h).handler]
  cases hhandler : s.handler with
  | none => exact .pure h _
  | some handler =>
    exact (hgo _ ((hR.paired h).faults handler hhandler cause) s s' h).bind fun _ _ _ h => .pure h _

theorem reporting_coupled {α : Type} {s s' : Session} {a b : Run (Except BindingFault α)}
    (hab : Coupled R s s' a b) :
    Coupled R s s' (reporting go a) (reporting go' b) := by
  unfold reporting
  refine hab.bind fun answer t t' h => ?_
  cases answer with
  | error cause => exact (raise_coupled hR hgo cause t t' h).bind fun _ _ _ h => .pure h _
  | ok _ => exact .pure h _

variable {id : EngineId} (hid : side id)

include hid

theorem dispatchCall_coupled (name : String) (call : RawCall) :
    CoupledIn R (dispatchCall go id name call) (dispatchCall go' id name call) := by
  intro s s' h
  refine reporting_coupled hR hgo (.step rfl rfl ?_)
  unfold runCall
  rw [Directory.resolve_congr ((hR.paired h).alike.records id hid)]
  cases hresolve : s.directory.resolve id name call with
  | error cause => exact .pure h _
  | ok c =>
    obtain ⟨r, f, hr, hf, hgives⟩ := Directory.resolve_gives hresolve
    have hc := ((hR.paired h).records id r hid hr).functions name f hf c hgives
    exact (hgo c hc s s' h).bind fun _ _ _ h => .pure h _

theorem dispatchItem_coupled (item : ByteArray) :
    CoupledIn R (dispatchItem go id item) (dispatchItem go' id item) := by
  intro s s' h
  refine reporting_coupled hR hgo (.step rfl rfl ?_)
  unfold runItem
  rw [Directory.resolveItem_congr ((hR.paired h).alike.records id hid)]
  cases hresolve : s.directory.resolveItem id item with
  | error cause => exact .pure h _
  | ok found =>
    cases found with
    | none => exact .pure h _
    | some c =>
      obtain ⟨r, subscriber, text, hr, hsubscriber, rfl⟩ := Directory.resolveItem_gives hresolve
      have hc := ((hR.paired h).records id r hid hr).subscriber subscriber hsubscriber text
      exact (hgo _ hc s s' h).bind fun _ _ _ h => .pure h _

theorem enter_coupled (entry : EntryPoint) (name : String) (call : RawCall) :
    CoupledIn R ((sessionHost go).enter entry id name call)
      ((sessionHost go').enter entry id name call) := by
  intro s s' h
  simp only [sessionHost]
  split
  case h_1 => exact dispatchCall_coupled hR hgo hid name call s s' h
  case h_2 noted answer _ =>
    split
    case isTrue => exact (note_coupled hR _ s s' h).bind fun _ _ _ h => .pure h _
    case isFalse => exact .pure h _

theorem deliver_coupled (entry : LogEntry) (item : ByteArray) :
    CoupledIn R ((sessionHost go).deliver entry id item)
      ((sessionHost go').deliver entry id item) := by
  intro s s' h
  simp only [sessionHost]
  split
  case h_1 => exact dispatchItem_coupled hR hgo hid item s s' h
  case h_2 noted answer =>
    split
    case isTrue => exact (note_coupled hR _ s s' h).bind fun _ _ _ h => .pure h _
    case isFalse => exact .pure h _

theorem hostsAlike_related (slot : TracerSlot) :
    HostsAlike R id id slot (sessionHost go) (sessionHost go') :=
  ⟨fun name b _ _ => enter_coupled hR hgo hid b.entry name _,
    fun entry _ item => deliver_coupled hR hgo hid entry item⟩

end

/-! ## Foreign engines -/

/-- An engine of the side is the same at a place where tracing engines are. -/
theorem placesAlike_related {s₀ s₀' : Session} (h₀ : R s₀ s₀') {index : Nat} {t₀ : Tracer}
    (hs₀ : (foreignAt index).get s₀ = .tracing t₀) {id : EngineId} (hid : side id) :
    PlacesAlike R id (foreignAt index).tracer (foreignAt index).tracer := by
  have htracing {s s' : Session} (h : R s s') :
      ∃ t t', (foreignAt index).get s = .tracing t ∧ (foreignAt index).get s' = .tracing t' ∧
        t.Same id t' := by
    rcases (hR.foreigns h index).makes with
      ⟨e, _, hs, -⟩ | ⟨t, t', hs, hs', hconfig, hslots⟩
    · have hmake := hR.makes h₀ h index
      rw [hs₀, hs] at hmake
      cases hmake
    · exact ⟨t, t', hs, hs', hconfig, hslots id hid⟩
  have hread {s : Session} {t : Tracer} (hs : (foreignAt index).get s = .tracing t) :
      (foreignAt index).tracer.get s = t := by
    show ((foreignAt index).get s).tracer?.getD {} = t
    rw [hs]
    rfl
  constructor
  case same =>
    intro s s' h
    obtain ⟨t, t', hs, hs', hsame⟩ := htracing h
    rwa [hread hs, hread hs']
  case stored =>
    intro s s' slot h
    obtain ⟨t, t', hs, hs', -⟩ := htracing h
    have hthere : (s.foreigns[index]?).isSome := Session.there_of_ne_default (by rw [hs]; nofun)
    have hheld := hR.held h hid hthere (.tracing slot)
    rw [hs, hs'] at hheld
    rw [hread hs, hread hs']
    exact hheld

section

variable {id : EngineId} (hid : side id)

include hid

/-- What one foreign engine becomes, the other becomes. -/
theorem write_coupled {s s' : Session} (h : R s s') {index : Nat}
    {r r' : Except EngineError Foreign}
    (hmoved : Foreign.Moved id ((foreignAt index).get s) ((foreignAt index).get s') r r') :
    Coupled R s s' (do let f ← .ofExcept r; (foreignAt index).write f : Attempt Session Unit).run
      (do let f ← .ofExcept r'; (foreignAt index).write f : Attempt Session Unit).run := by
  cases hmoved with
  | refused cause => exact .pure h _
  | held slot hknown =>
    refine .ofExcept_step fun r t hrun => ?_
    cases hrun
    exact ⟨_, rfl, hR.held h hid (Session.there_of_lines hknown) slot⟩

include hgo

variable (budget index : Nat)

theorem foreign_compute_coupled :
    CoupledIn R (Foreign.compute budget (sessionHost go) (foreignAt index) id).run
      (Foreign.compute budget (sessionHost go') (foreignAt index) id).run := by
  intro s s' h
  unfold Foreign.compute
  refine .lift_step rfl rfl ?_
  rcases (hR.foreigns h index).makes with
    ⟨e, e', hs, hs', -, hslots⟩ | ⟨t, t', hs, hs', -⟩
  · rw [hs, hs']
    dsimp only
    rw [Scripted.compute_congr (hslots id hid)]
    exact .pure h _
  · rw [hs, hs']
    exact Tracer.compute_coupled (hostsAlike_related hR hgo hid) (placesAlike_related hR h hs hid)
      budget s s' h

theorem foreign_snapshot_coupled :
    CoupledIn R (Foreign.snapshot budget (sessionHost go) (foreignAt index) id).run
      (Foreign.snapshot budget (sessionHost go') (foreignAt index) id).run := by
  intro s s' h
  unfold Foreign.snapshot
  refine .lift_step rfl rfl ?_
  rcases (hR.foreigns h index).makes with
    ⟨e, e', hs, hs', -, hslots⟩ | ⟨t, t', hs, hs', -⟩
  · rw [hs, hs']
    dsimp only
    rw [Scripted.snapshot_congr (hslots id hid)]
    exact .pure h _
  · rw [hs, hs']
    exact Tracer.snapshot_coupled (hostsAlike_related hR hgo hid) (placesAlike_related hR h hs hid)
      budget s s' h

theorem foreign_patch_coupled (offset length : UInt32) (data : ByteArray) :
    CoupledIn R (Foreign.patch budget (sessionHost go) (foreignAt index) id offset length data).run
      (Foreign.patch budget (sessionHost go') (foreignAt index) id offset length data).run := by
  intro s s' h
  unfold Foreign.patch
  refine .lift_step rfl rfl ?_
  rcases (hR.foreigns h index).makes with
    ⟨e, e', hs, hs', -, hslots⟩ | ⟨t, t', hs, hs', -⟩
  · have hmoved := Foreign.patch_moved (hR.foreigns h index) hid offset length data hs hs'
    have hwrite (r : Except EngineError Scripted) :
        (do let e ← .ofExcept r; (foreignAt index).write (.scripted e) : Attempt Session Unit) =
          (do let f ← .ofExcept (r.map .scripted); (foreignAt index).write f) := by
      cases r <;> rfl
    rw [hs, hs']
    have hwritten := write_coupled hR hid h hmoved
    rw [← hwrite, ← hwrite] at hwritten
    exact hwritten
  · rw [hs, hs']
    exact Tracer.patch_coupled (hostsAlike_related hR hgo hid) (placesAlike_related hR h hs hid)
      budget offset length data s s' h

end

/-! ## Handles -/

section

variable {handle : Handle} (hid : side handle.id)

include hid

theorem install_coupled (binary : Guest.Binary) :
    CoupledIn R (handle.install binary).run (handle.install binary).run := by
  intro s s' h
  have hwrite (r : Except EngineError Foreign) :
      (do let f ← .ofExcept r; (foreignAt handle.foreign).write f : Hosted Unit) =
        .ofEngine (do let f ← .ofExcept r; (foreignAt handle.foreign).write f) := by
    cases r <;> rfl
  unfold Handle.install
  refine .lift_step rfl rfl ?_
  rw [hwrite, hwrite]
  exact (write_coupled hR hid h (Foreign.install_moved (hR.foreigns h _) hid binary)).ofEngine

theorem unsubscribe_coupled : CoupledIn R handle.unsubscribe.run handle.unsubscribe.run := by
  intro s s' h r t hrun
  cases hrun
  exact ⟨_, rfl, hR.adjusted h hid fun r hr => ((hR.paired h).records _ r hid hr).subscribe nofun⟩

theorem record_congr {s s' : Session} (h : R s s') : handle.record s' = handle.record s := by
  unfold Handle.record
  rw [(hR.paired h).alike.records _ hid]

include hgo

omit hid in
theorem fail_coupled {α : Type} (cause : BindingFault) :
    CoupledIn R (Handle.fail go cause : Hosted α).run (Handle.fail go' cause : Hosted α).run := by
  intro s s' h
  unfold Handle.fail
  exact (raise_coupled hR hgo cause s s' h).lift_bind fun _ _ _ h => .pure h _

theorem register_coupled (name : String) (f : HostFunction Callback)
    (hf : ∀ c, f.Gives c → (among handles side).callback c) :
    CoupledIn R (handle.register go name f).run (handle.register go' name f).run := by
  intro s s' h
  unfold Handle.register
  refine .lift_step rfl rfl ?_
  rw [record_congr hR hid h]
  cases hregister : (handle.record s).register name f with
  | error cause => exact fail_coupled hR hgo cause s s' h
  | ok filed =>
    have hregister' : (handle.record s').register name f = .ok filed := by
      rw [record_congr hR hid h, hregister]
    have hkept : filed.Kept (among handles side) := by
      refine EngineRecord.Kept.register ?_ hf hregister
      unfold Handle.record
      cases hr : s.directory.lookup handle.id with
      | none => exact EngineRecord.kept_empty handle.id
      | some r => exact (hR.paired h).records _ r hid hr
    have hsame (s : Session) (dir : Directory Callback) :
        (foreignAt handle.foreign).get { s with directory := dir } =
          (foreignAt handle.foreign).get s := rfl
    refine .lift_step (changeDirectory_eq _) (changeDirectory_eq _) (.lift_step rfl rfl ?_)
    rw [hsame s, hsame s']
    rcases Foreign.bind?_moved (hR.foreigns h handle.foreign) hid name
      { shape := f.shape, entry := .forShape f.shape } with
      ⟨hnone, hnone'⟩ | ⟨slot, hknown, hsome, hsome'⟩
    · rw [hnone, hnone']
      refine .lift_step (changeDirectory_eq _) (changeDirectory_eq _) ?_
      rw [Directory.adjust_register_discard hregister, Directory.adjust_register_discard hregister']
      exact fail_coupled hR hgo _ s s' h
    · rw [hsome, hsome']
      have hadjusted := hR.adjusted h hid (f := fun _ => filed) fun _ _ => hkept
      intro r t hrun
      cases hrun
      exact ⟨_, rfl, hR.held hadjusted hid (Session.there_of_lines hknown) slot⟩

theorem subscribe_coupled (subscriber : String → Callback)
    (hf : ∀ item, (among handles side).callback (subscriber item)) :
    CoupledIn R (handle.subscribe go subscriber).run (handle.subscribe go' subscriber).run := by
  intro s s' h
  have hsame (s : Session) (dir : Directory Callback) :
      (foreignAt handle.foreign).get { s with directory := dir } =
        (foreignAt handle.foreign).get s := rfl
  have hadjusted (subscriber : Option (String → Callback))
      (hf : ∀ f, subscriber = some f → ∀ item, (among handles side).callback (f item)) :=
    hR.adjusted h hid (f := ({ · with subscriber })) fun r hr =>
      ((hR.paired h).records _ r hid hr).subscribe hf
  unfold Handle.subscribe
  refine .lift_step (changeDirectory_eq _) (changeDirectory_eq _) (.lift_step rfl rfl ?_)
  rw [hsame s, hsame s']
  rcases Foreign.listen?_moved (hR.foreigns h handle.foreign) hid .dispatcher with
    ⟨hnone, hnone'⟩ | ⟨slot, hknown, hsome, hsome'⟩
  · rw [hnone, hnone']
    refine .lift_step (changeDirectory_eq _) (changeDirectory_eq _) ?_
    rw [Directory.adjust_subscriber, Directory.adjust_subscriber]
    exact fail_coupled hR hgo _ _ _ (hadjusted none nofun)
  · rw [hsome, hsome']
    have hsubscribed := hadjusted (some subscriber) fun f heq item => by
      cases heq
      exact hf item
    intro r t hrun
    cases hrun
    exact ⟨_, rfl, hR.held hsubscribed hid (Session.there_of_lines hknown) slot⟩

end

/-! ## Operations -/

theorem withHandle_coupled {s s' : Session} (h : R s s')
    {name : String} {f g : Handle → Run Answer} (hfg : ∀ handle, handles[name]? = some handle →
      Coupled R s s' (f handle) (g handle)) :
    Coupled R s s' (withHandle name f) (withHandle name g) := by
  unfold withHandle
  refine .step rfl rfl ?_
  rw [(hR.paired h).table.1, (hR.paired h).table.2]
  cases hhandle : handles[name]? with
  | none => exact .pure h _
  | some handle => exact hfg handle hhandle

omit hR in
theorem withForeign_coupled {R : Session → Session → Prop} {s s' : Session}
    (hthere : ∀ index : Nat, s'.foreigns[index]?.isSome = s.foreigns[index]?.isSome) (h : R s s')
    {index : Nat} {f g : Foreign → Run Answer} (hfg : (s.foreigns[index]?).isSome →
      Coupled R s s' (f ((foreignAt index).get s)) (g ((foreignAt index).get s'))) :
    Coupled R s s' (withForeign index f) (withForeign index g) := by
  have hget (s : Session) (f : Foreign) (hf : s.foreigns[index]? = some f) :
      (foreignAt index).get s = f := by
    show s.foreigns.getD index default = f
    rw [Std.ExtTreeMap.getD_eq_getD_getElem?, hf, Option.getD_some]
  have hsome := hthere index
  unfold withForeign
  refine .step rfl rfl ?_
  cases hf : s.foreigns[index]? with
  | none =>
    rw [hf, Option.isSome_none, Option.isSome_eq_false_iff, Option.isNone_iff_eq_none] at hsome
    rw [hsome]
    exact .pure h _
  | some f =>
    rw [hf, Option.isSome_some] at hsome
    obtain ⟨f', hf'⟩ := Option.isSome_iff_exists.1 hsome
    have hrest := hfg (by rw [hf]; rfl)
    rw [hget s f hf, hget s' f' hf'] at hrest
    rw [hf']
    exact hrest

include hgo

theorem handleOp_coupled (budget : Nat) (name : String) {op : HandleOp Callback}
    (hop : (among handles side).op (.handle name op)) :
    CoupledIn R (handleOp budget go name op) (handleOp budget go' name op) := by
  intro s s' h
  obtain ⟨hnames, hid⟩ : op.names = false ∧
      ∀ handle : Handle, handles[name]? = some handle → side handle.id := by
    obtain ⟨hallowed, -⟩ := hop
    exact Op.Among.handle hallowed
  cases op with
  | create | attach | copy => cases hnames
  | install binary =>
    exact withHandle_coupled hR h fun handle hhandle =>
      (install_coupled hR (hid handle hhandle) binary s s' h).answerHosted _
  | compute =>
    refine withHandle_coupled hR h fun handle hhandle => Coupled.answerHosted ?_ _
    unfold Handle.compute
    exact (foreign_compute_coupled hR hgo (hid handle hhandle) budget _ s s' h).ofEngine.run_bind
      fun _ _ _ h => .pure h _
  | memory =>
    exact withHandle_coupled hR h fun handle hhandle =>
      (foreign_snapshot_coupled hR hgo (hid handle hhandle) budget _ s s' h).ofEngine.answerHosted _
  | read offset length =>
    refine withHandle_coupled hR h fun handle hhandle => Coupled.answerHosted ?_ _
    unfold Handle.read
    exact (foreign_snapshot_coupled hR hgo (hid handle hhandle) budget _ s s' h).ofEngine.run_bind
      fun _ _ _ h => .pure h _
  | patch offset length data =>
    refine withHandle_coupled hR h fun handle hhandle => Coupled.answerHosted ?_ _
    unfold Handle.patch
    cases checkLength length data with
    | error cause => exact .pure h _
    | ok _ =>
      exact (foreign_patch_coupled hR hgo (hid handle hhandle) budget _ offset length data s s'
        h).ofEngine
  | register functionName f =>
    exact withHandle_coupled hR h fun handle hhandle =>
      (register_coupled hR hgo (hid handle hhandle) functionName f
        (fun c hc => (among handles side).brings hop (.register hc)) s s' h).answerHosted _
  | subscribe subscriber =>
    exact withHandle_coupled hR h fun handle hhandle =>
      (subscribe_coupled hR hgo (hid handle hhandle) subscriber
        (fun item => (among handles side).brings hop (.subscribe item)) s s' h).answerHosted _
  | unsubscribe =>
    exact withHandle_coupled hR h fun handle hhandle =>
      (unsubscribe_coupled hR (hid handle hhandle) s s' h).answerHosted _
  | functions | debug =>
    refine withHandle_coupled hR h fun handle hhandle => .step rfl rfl ?_
    rw [record_congr hR (hid handle hhandle) h]
    exact .pure h _

theorem foreignOp_coupled (budget index : Nat) {op : ForeignOp} {id : EngineId}
    (hop : op.engine? = some id) (hid : side id) :
    CoupledIn R (foreignOp budget go index op) (foreignOp budget go' index op) := by
  intro s s' h
  have halike := hR.foreigns h index
  refine withForeign_coupled (hR.paired h).alike.there h fun hthere => ?_
  cases op with
  | create | execute | config => cases hop
  | install k binary =>
    cases hop
    exact (write_coupled hR hid h (Foreign.install_moved halike hid binary)).answerAttempt _
  | compute k =>
    cases hop
    exact (foreign_compute_coupled hR hgo hid budget index s s' h).answerAttempt _
  | memory k =>
    cases hop
    exact (foreign_snapshot_coupled hR hgo hid budget index s s' h).answerAttempt _
  | patch k offset length data =>
    cases hop
    exact (foreign_patch_coupled hR hgo hid budget index offset length data s s' h).answerAttempt _
  | bind k name binding =>
    cases hop
    rcases Foreign.bind?_moved halike hid name binding with
      ⟨hnone, hnone'⟩ | ⟨slot, hknown, hsome, hsome'⟩
    · dsimp only
      rw [hnone, hnone']
      exact .pure h _
    · dsimp only
      rw [hsome, hsome']
      exact .step rfl rfl (.pure (hR.held h hid hthere slot) _)
  | listen k entry =>
    cases hop
    rcases Foreign.listen?_moved halike hid entry with
      ⟨hnone, hnone'⟩ | ⟨slot, hknown, hsome, hsome'⟩
    · dsimp only
      rw [hnone, hnone']
      exact .pure h _
    · dsimp only
      rw [hsome, hsome']
      exact .step rfl rfl (.pure (hR.held h hid hthere slot) _)

theorem scriptedOp_coupled (index : Nat) {op : ScriptedOp} (hid : side op.engine) :
    CoupledIn R (scriptedOp go index op) (scriptedOp go' index op) := by
  intro s s' h
  refine withForeign_coupled (hR.paired h).alike.there h fun hthere => ?_
  rcases (hR.foreigns h index).makes with
    ⟨e, e', hs, hs', -, hslots⟩ | ⟨t, t', hs, hs', -⟩
  case inr =>
    rw [hs, hs']
    exact .pure h _
  have hadjusted (id : EngineId) (hid : side id) (change : ScriptedSlot → ScriptedSlot) :
      R (s.setForeign index (.scripted (e.adjust id change)))
        (s'.setForeign index (.scripted (e'.adjust id change))) := by
    obtain ⟨slot, hslot, hslot'⟩ := Foreign.adjust_moved (hslots id hid) change
    rw [hslot, hslot', ← hs, ← hs']
    exact hR.held h hid hthere slot
  rw [hs, hs']
  dsimp only [Foreign.scripted?]
  cases op with
  | setOutput id payload => exact .step rfl rfl (.pure (hadjusted id hid _) _)
  | refuse id => exact .step rfl rfl (.pure (hadjusted id hid _) _)
  | binary id =>
    dsimp only
    rw [Scripted.binary?_congr (hslots id hid)]
    exact .pure h _
  | imports id =>
    dsimp only
    rw [Scripted.imports_congr (hslots id hid)]
    exact .pure h _
  | armed id =>
    dsimp only
    rw [Scripted.listener?_congr (hslots id hid)]
    exact .pure h _
  | call id name call =>
    refine Coupled.bind ?_ fun _ _ _ h => .pure h _
    unfold Scripted.call
    rw [Scripted.entry_congr (hslots id hid)]
    cases e.entry id name with
    | error cause => exact .pure h _
    | ok entry => exact enter_coupled hR hgo hid entry name _ s s' h
  | emit id item =>
    refine Coupled.bind ?_ fun _ _ _ h => .pure h _
    unfold Scripted.emit
    rw [Scripted.listener?_congr (hslots id hid)]
    cases e.listener? id with
    | none => exact .pure h _
    | some entry => exact deliver_coupled hR hgo hid entry item s s' h

/-! ## Performing -/

omit hgo in
/-- A one-shot execution, after which the identities are still spared. -/
theorem executeIn_coupled (budget : Nat) {index : Nat} (binary : Guest.Binary) {s s' : Session}
    (h : R s s') (hthere : (s.foreigns[index]?).isSome) :
    Coupled (fun t t' => P t → R t t') s s'
      (executeIn budget go index binary).run (executeIn budget go' index binary).run := by
  refine (executeIn_spawned (hR.foreigns h index) binary).weaken fun t t' ht hP => ?_
  obtain ⟨slot, rfl, rfl⟩ := ht
  exact hR.spawned h hthere slot hP

theorem perform_coupled (budget : Nat) {op : Op} (hop : (among handles side).op op)
    {s s' : Session} (h : R s s') :
    Coupled (fun t t' => P t → R t t') s s'
      (perform budget go op) (perform budget go' op) := by
  have hallowed : Op.Among handles side op := by
    obtain ⟨hallowed, -⟩ := hop
    exact hallowed
  have hstays {a b : Run Answer} (hab : Coupled R s s' a b) :
      Coupled (fun t t' => P t → R t t') s s'
        a b := hab.weaken fun _ _ h _ => h
  rcases hallowed with hshot | ⟨id, hid, hside⟩
  case inl =>
    cases op with
    | executeBinary index binary =>
      refine withForeign_coupled (hR.paired h).alike.there (fun _ => h) fun hthere =>
        Coupled.answerHosted ?_ _
      exact (executeIn_coupled hR budget binary h hthere).ofEngine.run_bind fun _ _ _ h => .pure h _
    | foreign index op =>
      cases op with
      | execute binary =>
        exact withForeign_coupled (hR.paired h).alike.there (fun _ => h) fun hthere =>
          (executeIn_coupled hR budget binary h hthere).answerAttempt _
      | _ => cases hshot
    | _ => cases hshot
  case inr =>
    refine hstays ?_
    cases op with
    | handle name op => exact handleOp_coupled hR hgo budget name hop s s' h
    | foreign index op => exact foreignOp_coupled hR hgo budget index hid hside s s' h
    | scripted index op =>
      cases hid
      exact scriptedOp_coupled hR hgo index hside s s' h
    | enter k name call =>
      cases hid
      exact (dispatchCall_coupled hR hgo hside name call s s' h).bind fun _ _ _ h => .pure h _
    | deliver k item =>
      cases hid
      exact (dispatchItem_coupled hR hgo hside item s s' h).bind fun _ _ _ h => .pure h _
    | filed k =>
      cases hid
      refine .step rfl rfl ?_
      rw [(hR.paired h).alike.records _ hside]
      exact .pure h _
    | desk | executeBinary | setHandler | clearHandler => cases hid

omit hgo in
/-- A callback does what its operations do. -/
theorem play_coupled {ask ask' : Op → Run Answer}
    (hask : ∀ op, (among handles side).op op → CoupledIn R (ask op) (ask' op)) (c : Callback)
    (hc : (among handles side).callback c) : CoupledIn R (c.play ask note) (c.play ask' note) := by
  induction c with
  | done value =>
    intro s s' h
    exact .pure h _
  | ask question next ih =>
    intro s s' h
    obtain ⟨hop, hnext⟩ := (among handles side).asks hc
    exact (hask question hop s s' h).bind fun answer => ih answer (hnext answer)
  | note what next ih =>
    intro s s' h
    exact (note_coupled hR what s s' h).bind fun _ => ih ((among handles side).notes hc)

omit hR hgo in
/-- What the guard asks for is there at the end. -/
theorem Coupled.guarding {α : Type} {s s' : Session} {a b : Run α}
    (hab : Coupled (fun t t' => P t → R t t') s s' a b) : Coupled R s s' (guarding P a) b := by
  intro r t hrun
  obtain ⟨-, ha, ht⟩ := guarding_eq_some_iff.1 hrun
  obtain ⟨t', hb, hR⟩ := hab r t ha
  exact ⟨t', hb, hR ht⟩

omit hgo in
/-- An operation of the side, under guard in the first session. -/
theorem guardWithin_coupled (budget depth : Nat) {op : Op} (hop : (among handles side).op op) :
    CoupledIn R (guardWithin P budget depth op) (performWithin budget depth op) := by
  induction depth generalizing op with
  | zero =>
    intro s s' h r t hrun
    cases hrun
  | succ depth ih =>
    intro s s' h
    refine (perform_coupled hR (fun c hc s s' h => ?_) budget hop h).guarding
    exact .guarding ((play_coupled hR (fun op hop => ih hop) c hc s s' h).weaken fun _ _ h _ => h)

end

end EngineHost
