import EngineHost.Proofs.Session.Ledger
import EngineHost.Proofs.Session.Performing
import EngineHost.Proofs.Tracer.Operating
/-
Histories: sessions from their start on.  Whatever is performed is a course, so
the ledger of every engine can be kept from its journal.
-/
namespace EngineHost

/-! ## Sessions at their start -/

def Foreign.Fresh : Foreign → Prop
  | .scripted e | .pinned e _ => e.slots = ∅
  | .tracing t => t.slots = ∅

/-- A session in which no engine exists and nothing is registered.  What foreign
engines there are, and how they are configured, is open. -/
structure Session.Fresh (s : Session) : Prop where
  foreigns : ∀ (index : Nat) (f : Foreign), s.foreigns[index]? = some f → f.Fresh
  directory : s.directory = {}
  handler : s.handler = none
  handles : s.handles = ∅
  desk : s.desk = {}

namespace Session.Fresh

variable {s : Session}

theorem foreign (h : s.Fresh) (index : Nat) : ((foreignAt index).get s).Fresh := by
  show (s.foreigns.getD index default).Fresh
  rw [Std.ExtTreeMap.getD_eq_getD_getElem?]
  cases hf : s.foreigns[index]? with
  | none => exact rfl
  | some f => exact h.foreigns index f hf

theorem slotAt? (h : s.Fresh) (site : Site) : s.slotAt? site = none := by
  cases hslot : s.slotAt? site with
  | none => rfl
  | some slot =>
    have htracer := tracerAt?_of_slotAt? hslot
    have hfresh := h.foreign site.foreign
    rw [tracerAt?_eq_some_iff.1 htracer] at hfresh
    have hempty : ((foreignAt site.foreign).tracer.get s).slots = ∅ := hfresh
    rw [slotAt?_eq_some_iff, hempty, Std.ExtTreeMap.getElem?_empty] at hslot
    cases hslot

theorem kept {d : Discipline} (h : s.Fresh) : s.Kept d := by
  constructor
  · rw [h.directory]
    exact Directory.kept_empty
  · rw [h.handler]
    intro _ heq
    cases heq
  · rw [h.desk]
    refine ⟨Directory.kept_empty, fun name r hr => ?_⟩
    rw [Std.ExtTreeMap.getElem?_empty] at hr
    cases hr

end Session.Fresh

/-- A session at its start, with one foreign engine. -/
def soleSession (f : Foreign) : Session :=
  { foreigns := (∅ : Std.ExtTreeMap Nat Foreign).insert 0 f }

theorem soleSession_fresh {f : Foreign} (h : f.Fresh) : (soleSession f).Fresh := by
  refine ⟨fun index g hg => ?_, rfl, rfl, rfl, rfl⟩
  change ((∅ : Std.ExtTreeMap Nat Foreign).insert 0 f)[index]? = some g at hg
  rw [Std.ExtTreeMap.getElem?_insert] at hg
  split at hg
  · cases hg
    exact h
  · rw [Std.ExtTreeMap.getElem?_empty] at hg
    cases hg

/-- A session at its start, with one tracing engine. -/
def tracingSession (config : TracerConfig) : Session :=
  { foreigns := (∅ : Std.ExtTreeMap Nat Foreign).insert 0 (.tracing { config }) }

theorem tracingSession_fresh (config : TracerConfig) : (tracingSession config).Fresh :=
  soleSession_fresh (f := .tracing { config }) rfl

/-! ## Performing in order -/

/-- Performed one after another, with budgets that suffice, the operations have
these answers and lead from one session to the other.  The events that an
operation leaves behind are taken out after it. -/
inductive Performed : Session → List (Op × Answer) → Session → Prop where
  | nil (s : Session) : Performed s [] s
  | cons {s t u : Session} {op : Op} {a : Answer} {rest : List (Op × Answer)}
      (budget depth : Nat) (h : performWithin budget depth op s = some (a, t))
      (hrest : Performed t.takeEvents.2 rest u) : Performed s ((op, a) :: rest) u

section

variable {s t u : Session} {op : Op} {a : Answer}

/-- Sessions are not held to anything here. -/
theorem Session.kept_none : s.Kept Discipline.none :=
  ⟨fun _ _ _ => ⟨fun _ _ _ _ _ => trivial, fun _ _ _ => trivial⟩, fun _ _ _ => trivial,
    ⟨fun _ _ _ => ⟨fun _ _ _ _ _ => trivial, fun _ _ _ => trivial⟩,
      fun _ _ _ => ⟨fun _ _ _ _ _ => trivial, fun _ _ _ => trivial⟩⟩⟩

section

variable {budget₁ budget₂ depth₁ depth₂ : Nat} (hbudget : budget₁ ≤ budget₂)
  (hdepth : depth₁ ≤ depth₂)

include hbudget hdepth

theorem performWithin_mono (h : performWithin budget₁ depth₁ op s = some (a, t)) :
    performWithin budget₂ depth₂ op s = some (a, t) :=
  (performWithin_proceeds (d := .none) hbudget hdepth Session.kept_none trivial _ _ h).1

/-- Callbacks run under larger budgets do what they do under smaller ones. -/
theorem companions_within :
    Companions .none (fun _ => True) (Program.play (performWithin budget₁ depth₁) note)
      (Program.play (performWithin budget₂ depth₂) note) := by
  refine ⟨⟨budget₁, depth₁, rfl⟩, fun _ => Session.kept_none, fun _ _ => trivial, fun _ hc => ?_⟩
  refine play_proceeds (P := fun _ => True) (fun _ _ => trivial) (fun _ hop => ?_) hc trivial
  exact performWithin_proceeds hbudget hdepth Session.kept_none hop

end

theorem performWithin_course {budget depth : Nat}
    (h : performWithin budget depth op s = some (a, t)) : ∃ js, Course .none s js t :=
  (performWithin_proceeds (d := .none) (Nat.le_refl budget) (Nat.le_refl depth) Session.kept_none
    trivial _ _ h).2

theorem Performed.trans {ops ops' : List (Op × Answer)} (h : Performed s ops t)
    (h' : Performed t ops' u) : Performed s (ops ++ ops') u := by
  induction h with
  | nil => exact h'
  | cons budget depth h _ ih => exact .cons budget depth h (ih h')

theorem Performed.course {ops : List (Op × Answer)} (h : Performed s ops t) :
    ∃ js, Course .none s js t := by
  induction h with
  | nil s => exact ⟨[], .nil s⟩
  | cons budget depth h _ ih =>
    obtain ⟨js, hcourse⟩ := performWithin_course h
    obtain ⟨js', hrest⟩ := ih
    exact ⟨js ++ ([] ++ js'), hcourse.trans (.change (.noted []) hrest)⟩

/-- Perform operations in order, under the same budgets. -/
def Session.after (budget depth : Nat) (s : Session) :
    List Op → Option (List (Op × Answer) × Session)
  | [] => some ([], s)
  | op :: rest => do
    let (a, s) ← performWithin budget depth op s
    let (done, s) ← s.takeEvents.2.after budget depth rest
    return ((op, a) :: done, s)

theorem performed_of_after {budget depth : Nat} {ops : List Op} {done : List (Op × Answer)}
    (h : s.after budget depth ops = some (done, t)) : Performed s done t := by
  induction ops generalizing s done with
  | nil =>
    cases h
    exact .nil t
  | cons op rest ih =>
    obtain ⟨⟨a, u⟩, ha, h⟩ := Option.bind_eq_some_iff.1 h
    obtain ⟨⟨done, v⟩, hrest, ⟨⟩⟩ := Option.bind_eq_some_iff.1 h
    exact .cons budget depth ha (ih hrest)

/-- The ledger of an engine is right at every point of a history. -/
theorem Session.Fresh.books (hs : s.Fresh) {site : Site} {config : TracerConfig}
    (hconfig : t.configAt? site.foreign = some config) {js : Journal} (h : Course .none s js t) :
    Books config (t.slotAt? site) (.ofDeeds (deedsAt site js))
      (({} : Quiet).enterAll (deedsAt site js)) := by
  have hstart : s.configAt? site.foreign = some config :=
    (h.configAt? site.foreign).symm.trans hconfig
  refine (h.books hstart ?_).1
  rw [hs.slotAt? site]
  exact .empty

/-! ## What is accepted, and what is shown -/

/-- The answer that is made of what an operation on a handle comes to. -/
def Answer.ofHosted {α : Type} (answer : α → Answer) : Except HostError α → Answer
  | .ok x => answer x
  | .error cause => .hostError cause

theorem answerHosted_eq_some_iff {α : Type} {action : Hosted α} {answer : α → Answer} :
    answerHosted action answer s = some (a, t) ↔
      ∃ r, action.run s = some (r, t) ∧ a = .ofHosted answer r := by
  have heq : answerHosted action answer = action.run >>= fun r => pure (.ofHosted answer r) := by
    unfold answerHosted
    refine congrArg (action.run >>= ·) (funext fun r => ?_)
    cases r with
    | error cause => rfl
    | ok x => rfl
  rw [heq, Turn.bind_pure_eq_some_iff]

section

variable {site : Site} {budget : Nat} {host : Host Session}
  (htracing : (s.tracerAt? site.foreign).isSome)

include htracing

theorem snapshot_of_tracing :
    (Foreign.snapshot budget host (foreignAt site.foreign) site.id).run s =
      (Tracer.snapshot budget host (foreignAt site.foreign).tracer site.id).run s := by
  obtain ⟨tracer, htracer⟩ := Option.isSome_iff_exists.1 htracing
  unfold Foreign.snapshot
  rw [Turn.run_lift_bind, Place.read_bind, Session.tracerAt?_eq_some_iff.1 htracer]

theorem patch_of_tracing {offset length : UInt32} {data : ByteArray} :
    (Foreign.patch budget host (foreignAt site.foreign) site.id offset length data).run s =
      (Tracer.patch budget host (foreignAt site.foreign).tracer site.id offset length data).run
        s := by
  obtain ⟨tracer, htracer⟩ := Option.isSome_iff_exists.1 htracing
  unfold Foreign.patch
  rw [Turn.run_lift_bind, Place.read_bind, Session.tracerAt?_eq_some_iff.1 htracer]

end

section

variable {name : String} {handle : Handle} {tracer : Tracer} {budget depth : Nat}
  (hnamed : s.handles[name]? = some handle)

include hnamed

theorem withHandle_of_named {f : Handle → Run Answer} : withHandle name f s = f handle s := by
  unfold withHandle
  rw [Turn.get_bind, hnamed]

/-- A module that is accepted is in the journal. -/
theorem install_installed {binary : Guest.Binary}
    (h : performWithin budget depth (.handle name (.install binary)) s = some (.ok, t)) :
    Course .none s [(⟨handle.foreign, handle.id⟩, .installed binary)] t := by
  cases depth with
  | zero => cases h
  | succ depth =>
    have hperform : performWithin budget (depth + 1) (.handle name (.install binary)) s =
        answerHosted (handle.install binary) (fun _ => .ok) s := withHandle_of_named hnamed
    rw [hperform, answerHosted_eq_some_iff] at h
    obtain ⟨r, hinstall, hanswer⟩ := h
    unfold Handle.install at hinstall
    obtain ⟨_, _, ⟨⟩, hinstall⟩ := Turn.run_lift_bind_eq_some_iff.1 hinstall
    cases hf : ((foreignAt handle.foreign).get s).install handle.id binary with
    | error e =>
      rw [hf] at hinstall
      cases hinstall
      cases hanswer
    | ok f =>
      rw [hf] at hinstall
      cases hinstall
      exact .one (.installed handle.foreign handle.id binary f hf)

/-- A patch that a tracing engine accepts is in the journal, at its end. -/
theorem patch_recorded (htracing : s.tracerAt? handle.foreign = some tracer)
    {offset length : UInt32} {data : ByteArray}
    (h : performWithin budget depth (.handle name (.patch offset length data)) s = some (.ok, t)) :
    ∃ p js, Patch.make offset length data = .ok p ∧
      Course .none s (js ++ [(⟨handle.foreign, handle.id⟩, .recorded p)]) t := by
  cases depth with
  | zero => cases h
  | succ depth =>
    have hperform : performWithin budget (depth + 1) (.handle name (.patch offset length data)) s =
        answerHosted (handle.patch budget (Program.play (performWithin budget depth) note) offset
          length data) (fun _ => .ok) s := withHandle_of_named hnamed
    rw [hperform, answerHosted_eq_some_iff] at h
    obtain ⟨r, hpatch, hanswer⟩ := h
    cases r with
    | error e => cases hanswer
    | ok _ =>
      have hfollows := patch_follows
        (companions_within (Nat.le_refl budget) (Nat.le_refl depth)) trivial (Nat.le_refl budget)
        handle offset length data (s := s)
      exact (hfollows _ _ hpatch).2.2 rfl ⟨tracer, htracing⟩

/-- A patch that fits into the memory at hand is accepted. -/
theorem patch_accepted (htracing : s.tracerAt? handle.foreign = some tracer)
    {offset length : UInt32} {data image : ByteArray} {p : Patch} {slot : TracerSlot}
    (hmake : Patch.make offset length data = .ok p)
    (hcapturing : Tracer.Capturing budget (hostWithin budget depth)
      (foreignAt handle.foreign).tracer handle.id s (.ok slot) t)
    (happly : p.applyTo (slot.image.getD .empty) = .ok image) :
    performWithin budget (depth + 1) (.handle name (.patch offset length data)) s =
      some (.ok, t.setSlotAt ⟨handle.foreign, handle.id⟩
        { slot with image := some image, patches := slot.patches ++ [p] }) := by
  have hperform : performWithin budget (depth + 1) (.handle name (.patch offset length data)) s =
      answerHosted (handle.patch budget (Program.play (performWithin budget depth) note) offset
        length data) (fun _ => .ok) s := withHandle_of_named hnamed
  have htracer : (s.tracerAt? (Site.mk handle.foreign handle.id).foreign).isSome :=
    Option.isSome_iff_exists.2 ⟨tracer, htracing⟩
  have hrun := Tracer.patch_eq_some_iff.2 (.accepted hmake hcapturing happly)
  rw [← patch_of_tracing htracer] at hrun
  obtain ⟨_, hlength, _⟩ := bind_eq_ok_iff.1 hmake
  rw [hperform, answerHosted_eq_some_iff]
  refine ⟨.ok (), ?_, rfl⟩
  unfold Handle.patch
  rw [hlength]
  exact Turn.bind_pure_eq_some_iff.2 ⟨.ok (), hrun, rfl⟩

/-- What a tracing engine shows through a handle is its image. -/
theorem shows_image (htracing : s.tracerAt? handle.foreign = some tracer) {memory : ByteArray}
    (h : performWithin budget depth (.handle name .memory) s = some (.memory memory, t)) :
    ∃ slot, t.slotAt? ⟨handle.foreign, handle.id⟩ = some slot ∧ slot.image = some memory := by
  cases depth with
  | zero => cases h
  | succ depth =>
    have hperform : performWithin budget (depth + 1) (.handle name .memory) s =
        answerHosted (handle.memory budget (Program.play (performWithin budget depth) note)) .memory
          s := withHandle_of_named hnamed
    rw [hperform, answerHosted_eq_some_iff] at h
    obtain ⟨r, hmemory, hanswer⟩ := h
    cases r with
    | error e => cases hanswer
    | ok _ =>
      cases hanswer
      have hfollows := memory_follows
        (companions_within (Nat.le_refl budget) (Nat.le_refl depth)) trivial (Nat.le_refl budget)
        handle (s := s)
      exact (hfollows _ _ hmemory).2.2 memory rfl ⟨tracer, htracing⟩

end

end

end EngineHost
