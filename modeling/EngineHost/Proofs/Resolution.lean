import EngineHost.Proofs.Dispatch
import EngineHost.Session.Reporting
/-
Resolution in full: for every directory and every raw call, which of the four
faults the call ends in, or which callback it runs and on which arguments.

The checks are made in a fixed order, so each outcome is characterised by the
checks before it having passed and its own having failed.  Nothing is assumed
of the directory.  A record that is filed under another identity than its own
shows in one place only, the fault of an unknown name, which takes the identity
from the record.
-/
namespace EngineHost

variable {ρ : Type}

/-! ## Markers -/

namespace EngineId

/-- The marker in front of the arguments of a call that comes in on a path, in
the wide width. -/
def marker (id : EngineId) : CallPath → Int64
  | .notify | .i32 => id.narrowMarker.toInt64
  | .i64 => id.wideMarker

variable {a b : EngineId}

theorem wideMarker_inj (h : a.wideMarker = b.wideMarker) : a = b := by
  cases a with
  | mk x =>
  cases b with
  | mk y =>
  have hval : x = y := UInt32.toUInt64_inj.1 (congrArg Int64.toUInt64 h)
  rw [hval]

/-- Sign extension keeps narrow slots apart. -/
theorem toInt64_inj {x y : Int32} : x.toInt64 = y.toInt64 ↔ x = y := by
  constructor
  · intro h
    simpa using congrArg Int64.toInt32 h
  · exact congrArg Int32.toInt64

/-- No two engines share a marker on any path. -/
theorem marker_inj {path : CallPath} (h : a.marker path = b.marker path) : a = b := by
  cases path with
  | notify | i32 => exact narrowMarker_inj (toInt64_inj.1 h)
  | i64 => exact wideMarker_inj h

end EngineId

namespace RawCall

/-- The first slot is the marker of an engine. -/
def Carries (call : RawCall) (id : EngineId) : Prop :=
  call.slots.head? = some (id.marker call.path)

instance (call : RawCall) (id : EngineId) : Decidable (call.Carries id) :=
  inferInstanceAs (Decidable (_ = _))

/-- The shape that a call has if its first slot is a marker. -/
def shape (call : RawCall) : CallShape := call.path.shape (call.slots.length - 1)

section

variable {first : Int32} {args : List Int32}

@[simp] theorem shape_notify_cons : (RawCall.notify (first :: args)).shape = .notify args.length := by
  simp [shape, path, slots, widen, CallPath.shape]

@[simp] theorem shape_i32_cons : (RawCall.i32 (first :: args)).shape = .i32 args.length := by
  simp [shape, path, slots, widen, CallPath.shape]

@[simp] theorem shape_i64_cons {first : Int64} {args : List Int64} :
    (RawCall.i64 (first :: args)).shape = .i64 args.length := by
  simp [shape, path, slots, CallPath.shape]

end

theorem Carries.unique {call : RawCall} {a b : EngineId} (ha : call.Carries a)
    (hb : call.Carries b) : a = b :=
  EngineId.marker_inj (Option.some.inj (ha.symm.trans hb))

/-- The marker of a large identity has its sign bit set in the narrow width, and
not in the wide one. -/
example : (RawCall.i32 [-1, 5]).Carries ⟨0xFFFFFFFF⟩ ∧
    (RawCall.i64 [0xFFFFFFFF, 5]).Carries ⟨0xFFFFFFFF⟩ ∧
      ¬ (RawCall.i64 [-1, 5]).Carries ⟨0xFFFFFFFF⟩ := by decide

/-- A call that carries a marker is made of the marker and the arguments. -/
theorem Carries.cases {call : RawCall} {id : EngineId} (h : call.Carries id) :
    (∃ args, call = .notify (id.narrowMarker :: args)) ∨
      (∃ args, call = .i32 (id.narrowMarker :: args)) ∨
        ∃ args, call = .i64 (id.wideMarker :: args) := by
  unfold Carries at h
  cases call with
  | notify slots | i32 slots =>
    cases slots with
    | nil => cases h
    | cons first args =>
      have hfirst : first = id.narrowMarker := EngineId.toInt64_inj.1 (Option.some.inj h)
      simp [hfirst]
  | i64 slots =>
    cases slots with
    | nil => cases h
    | cons first args =>
      have hfirst : first = id.wideMarker := Option.some.inj h
      simp [hfirst]

end RawCall

section

variable {α : Type} [DecidableEq α] {marker : α} {slots : List α}

theorem stripMarker_cons_self {args : List α} : stripMarker marker (marker :: args) = .ok args :=
  if_pos rfl

theorem stripMarker_of_ne (h : slots.head? ≠ some marker) :
    stripMarker marker slots = .error slots.head? := by
  cases slots with
  | nil => rfl
  | cons first rest =>
    have hne : first ≠ marker := fun hfirst => h (congrArg some hfirst)
    exact if_neg hne

end

/-! ## What a callback is handed -/

/-- The callback of a function on exactly the slots after the first, in their
order and in the width they came in. -/
inductive HostFunction.Handed : HostFunction ρ → RawCall → ρ → Prop where
  | notify {arity : Nat} {fixed : 1 ≤ arity ∧ arity ≤ 3} {callback : List Int32 → ρ}
      {first : Int32} {args : List Int32} :
      Handed (.notify arity fixed callback) (.notify (first :: args)) (callback args)
  | i32 {params : Nat} {callback : List Int32 → ρ} {first : Int32} {args : List Int32} :
      Handed (.i32 params callback) (.i32 (first :: args)) (callback args)
  | i64 {params : Nat} {callback : List Int64 → ρ} {first : Int64} {args : List Int64} :
      Handed (.i64 params callback) (.i64 (first :: args)) (callback args)

/-- There is only one thing a callback can be handed. -/
theorem HostFunction.Handed.unique {f : HostFunction ρ} {call : RawCall} {c c' : ρ}
    (h : f.Handed call c) (h' : f.Handed call c') : c = c' := by
  cases h <;> cases h' <;> rfl

namespace Directory

/-- A function is registered under a name in the record of an engine. -/
def Registered (d : Directory ρ) (id : EngineId) (name : String) (f : HostFunction ρ) : Prop :=
  ∃ r, d.lookup id = some r ∧ r.functions[name]? = some f

variable {d : Directory ρ} {id : EngineId} {name : String} {call : RawCall}

theorem Registered.unique {f g : HostFunction ρ} (hf : d.Registered id name f)
    (hg : d.Registered id name g) : f = g := by
  obtain ⟨r, hr, hf⟩ := hf
  obtain ⟨r', hr', hg⟩ := hg
  rw [hr] at hr'
  cases hr'
  exact Option.some.inj (hf.symm.trans hg)

/-! ## One lemma for each outcome -/

theorem resolve_of_absent (h : d.lookup id = none) :
    d.resolve id name call = .error (.unknownEngine id) := by
  unfold resolve functionOf
  rw [h]
  rfl

theorem resolve_of_unregistered {r : EngineRecord ρ} (hr : d.lookup id = some r)
    (hname : r.functions[name]? = none) :
    d.resolve id name call = .error (.unknownFunction r.id name) := by
  have hfunction : d.functionOf id name = .error (.unknownFunction r.id name) := by
    unfold functionOf EngineRecord.function
    simp only [hr, hname]
  unfold resolve
  rw [hfunction]
  rfl

section

variable {f : HostFunction ρ} (hf : d.Registered id name f)

include hf

theorem resolve_of_unmarked (hmarker : ¬ call.Carries id) :
    d.resolve id name call = .error (.markerMismatch id name call.slots.head?) := by
  unfold resolve
  rw [functionOf_eq_ok_iff.2 hf]
  cases call with
  | notify slots | i32 slots =>
    have hne : slots.head? ≠ some id.narrowMarker := by
      intro heq
      refine hmarker ?_
      show (slots.map Int32.toInt64).head? = some id.narrowMarker.toInt64
      rw [List.head?_map, heq, Option.map_some]
    have hstrip := stripMarker_of_ne hne
    simp [hstrip, Except.mapError, bind, Except.bind, RawCall.slots, widen]
  | i64 slots =>
    have hstrip : stripMarker id.wideMarker slots = _ := stripMarker_of_ne hmarker
    simp [hstrip, Except.mapError, bind, Except.bind, RawCall.slots]

theorem resolve_of_misshapen (hmarker : call.Carries id) (hshape : f.shape ≠ call.shape) :
    d.resolve id name call = .error (.shapeMismatch id name f.shape call.shape) := by
  unfold resolve
  rw [functionOf_eq_ok_iff.2 hf]
  rcases hmarker.cases with ⟨args, rfl⟩ | ⟨args, rfl⟩ | ⟨args, rfl⟩
  all_goals
    cases f with
    | notify | i32 | i64 =>
      simp_all [HostFunction.shape, stripMarker_cons_self, Except.mapError, bind, Except.bind,
        CallPath.shape]

theorem resolve_of_fitting (hmarker : call.Carries id) (hshape : f.shape = call.shape) :
    ∃ c, f.Handed call c ∧ d.resolve id name call = .ok c := by
  have hfunction := functionOf_eq_ok_iff.2 hf
  rcases hmarker.cases with ⟨args, rfl⟩ | ⟨args, rfl⟩ | ⟨args, rfl⟩
  case inl =>
    rw [RawCall.shape_notify_cons] at hshape
    cases f with
    | notify arity fixed callback =>
      cases hshape
      exact ⟨callback args, .notify, resolve_notify hfunction rfl⟩
    | i32 | i64 => cases hshape
  case inr.inl =>
    rw [RawCall.shape_i32_cons] at hshape
    cases f with
    | i32 params callback =>
      cases hshape
      exact ⟨callback args, .i32, resolve_i32 hfunction rfl⟩
    | notify | i64 => cases hshape
  case inr.inr =>
    rw [RawCall.shape_i64_cons] at hshape
    cases f with
    | i64 params callback =>
      cases hshape
      exact ⟨callback args, .i64, resolve_i64 hfunction rfl⟩
    | notify | i32 => cases hshape

end

variable (d id name call)

/-- What there is to come of a call, one case for each check that can fail and
one for a call that passes them all. -/
inductive Resolves : Except BindingFault ρ → Prop where
  | absent (hlookup : d.lookup id = none) : Resolves (.error (.unknownEngine id))
  | unregistered (r : EngineRecord ρ) (hlookup : d.lookup id = some r)
      (hname : r.functions[name]? = none) : Resolves (.error (.unknownFunction r.id name))
  | unmarked (f : HostFunction ρ) (hf : d.Registered id name f) (hmarker : ¬ call.Carries id) :
      Resolves (.error (.markerMismatch id name call.slots.head?))
  | misshapen (f : HostFunction ρ) (hf : d.Registered id name f) (hmarker : call.Carries id)
      (hshape : f.shape ≠ call.shape) :
      Resolves (.error (.shapeMismatch id name f.shape call.shape))
  | fitting (f : HostFunction ρ) (c : ρ) (hf : d.Registered id name f)
      (hmarker : call.Carries id) (hshape : f.shape = call.shape) (hc : f.Handed call c) :
      Resolves (.ok c)

theorem resolve_resolves : d.Resolves id name call (d.resolve id name call) := by
  cases hlookup : d.lookup id with
  | none =>
    rw [resolve_of_absent hlookup]
    exact .absent hlookup
  | some r =>
    cases hname : r.functions[name]? with
    | none =>
      rw [resolve_of_unregistered hlookup hname]
      exact .unregistered r hlookup hname
    | some f =>
      have hf : d.Registered id name f := ⟨r, hlookup, hname⟩
      by_cases hmarker : call.Carries id
      case neg =>
        rw [resolve_of_unmarked hf hmarker]
        exact .unmarked f hf hmarker
      case pos =>
        by_cases hshape : f.shape = call.shape
        case neg =>
          rw [resolve_of_misshapen hf hmarker hshape]
          exact .misshapen f hf hmarker hshape
        case pos =>
          obtain ⟨c, hc, hresolve⟩ := resolve_of_fitting hf hmarker hshape
          rw [hresolve]
          exact .fitting f c hf hmarker hshape hc

variable {d id name call}

theorem resolve_eq_unknownEngine_iff :
    d.resolve id name call = .error (.unknownEngine id) ↔ d.lookup id = none := by
  constructor
  case mp =>
    intro h
    have hresolves := d.resolve_resolves id name call
    rw [h] at hresolves
    cases hresolves
    assumption
  case mpr => exact resolve_of_absent

theorem resolve_eq_unknownFunction_iff {engine : EngineId} :
    d.resolve id name call = .error (.unknownFunction engine name) ↔
      ∃ r, d.lookup id = some r ∧ r.functions[name]? = none ∧ engine = r.id := by
  constructor
  case mp =>
    intro h
    have hresolves := d.resolve_resolves id name call
    rw [h] at hresolves
    cases hresolves with
    | unregistered r hlookup hname => exact ⟨r, hlookup, hname, rfl⟩
  case mpr =>
    intro h
    obtain ⟨r, hlookup, hname, rfl⟩ := h
    exact resolve_of_unregistered hlookup hname

theorem resolve_eq_markerMismatch_iff {found : Option Int64} :
    d.resolve id name call = .error (.markerMismatch id name found) ↔
      ∃ f, d.Registered id name f ∧ ¬ call.Carries id ∧ found = call.slots.head? := by
  constructor
  case mp =>
    intro h
    have hresolves := d.resolve_resolves id name call
    rw [h] at hresolves
    cases hresolves with
    | unmarked f hf hmarker => exact ⟨f, hf, hmarker, rfl⟩
  case mpr =>
    intro h
    obtain ⟨f, hf, hmarker, rfl⟩ := h
    exact resolve_of_unmarked hf hmarker

theorem resolve_eq_shapeMismatch_iff {declared invoked : CallShape} :
    d.resolve id name call = .error (.shapeMismatch id name declared invoked) ↔
      ∃ f, d.Registered id name f ∧ call.Carries id ∧ f.shape ≠ call.shape ∧
        declared = f.shape ∧ invoked = call.shape := by
  constructor
  case mp =>
    intro h
    have hresolves := d.resolve_resolves id name call
    rw [h] at hresolves
    cases hresolves with
    | misshapen f hf hmarker hshape => exact ⟨f, hf, hmarker, hshape, rfl, rfl⟩
  case mpr =>
    intro h
    obtain ⟨f, hf, hmarker, hshape, rfl, rfl⟩ := h
    exact resolve_of_misshapen hf hmarker hshape

theorem resolve_eq_ok_iff {c : ρ} :
    d.resolve id name call = .ok c ↔
      ∃ f, d.Registered id name f ∧ call.Carries id ∧ f.shape = call.shape ∧ f.Handed call c := by
  constructor
  case mp =>
    intro h
    have hresolves := d.resolve_resolves id name call
    rw [h] at hresolves
    cases hresolves with
    | fitting f _ hf hmarker hshape hc => exact ⟨f, hf, hmarker, hshape, hc⟩
  case mpr =>
    intro h
    obtain ⟨f, hf, hmarker, hshape, hc⟩ := h
    obtain ⟨c', hc', hresolve⟩ := resolve_of_fitting hf hmarker hshape
    rw [hresolve, hc.unique hc']

/-- Only the engine whose marker a call carries can answer it. -/
theorem resolve_of_carries_other {other : EngineId} (hmarker : call.Carries other)
    (hother : id ≠ other) : ∃ cause, d.resolve id name call = .error cause := by
  cases hresolve : d.resolve id name call with
  | error cause => exact ⟨cause, rfl⟩
  | ok c =>
    obtain ⟨_, _, hid, _⟩ := resolve_eq_ok_iff.1 hresolve
    exact absurd (hid.unique hmarker) hother

end Directory

/-! ## Running what was resolved -/

section

variable {d : Directory Callback} {id : EngineId} {name : String} {call : RawCall}

variable (d id name call) in
/-- The call is answered with a fault, and nothing has been run or changed. -/
def Directory.Refuses (cause : BindingFault) : Prop :=
  ∀ (go : Callback → Run Int32) (s : Session), runCall go d id name call s = some (.error cause, s)

variable (d id name call) in
/-- The call runs a callback once, and is answered with what it ends with, or
with nothing if it is a notification. -/
def Directory.Runs (c : Callback) : Prop :=
  ∀ go : Callback → Run Int32, runCall go d id name call = do
    let value ← go c
    return .ok (if call.path = .notify then 0 else value)

open Classical in
/-- A call runs what it resolves to.  That it runs nothing else shows when every
other callback is given no result. -/
theorem Directory.runs_iff {c : Callback} :
    d.Runs id name call c ↔ d.resolve id name call = .ok c := by
  constructor
  case mp =>
    intro h
    have hrun := congrFun (h fun other => if other = c then pure 0 else fun _ => none) {}
    have hgo : (if c = c then (pure 0 : Run Int32) else fun _ => none) = pure 0 := if_pos rfl
    rw [hgo] at hrun
    unfold runCall at hrun
    cases hresolve : d.resolve id name call with
    | error cause =>
      rw [hresolve] at hrun
      cases hrun
    | ok found =>
      by_cases hfound : found = c
      case pos => rw [hfound]
      case neg =>
        simp only [hresolve, if_neg hfound] at hrun
        cases hrun
  case mpr =>
    intro h go
    unfold runCall
    rw [h]

/-- A call is refused for the reason that it does not resolve. -/
theorem Directory.refuses_iff {cause : BindingFault} :
    d.Refuses id name call cause ↔ d.resolve id name call = .error cause := by
  constructor
  case mp =>
    intro h
    have hrun := h (fun _ => pure 0) {}
    unfold runCall at hrun
    cases hresolve : d.resolve id name call with
    | error found =>
      rw [hresolve] at hrun
      cases hrun
      rfl
    | ok c =>
      rw [hresolve] at hrun
      cases hrun
  case mpr =>
    intro h go s
    unfold runCall
    rw [h]
    rfl

end

/-- Resolution in full, for every directory, name and raw call.  A call that
carries the marker of one engine is refused by every other, whatever directory
and name it is looked up by. -/
theorem dispatch_in_full (d : Directory Callback) (id : EngineId) (name : String)
    (call : RawCall) :
    (d.Refuses id name call (.unknownEngine id) ↔ d.lookup id = none) ∧
    (∀ engine, d.Refuses id name call (.unknownFunction engine name) ↔
      ∃ r, d.lookup id = some r ∧ r.functions[name]? = none ∧ engine = r.id) ∧
    (∀ found, d.Refuses id name call (.markerMismatch id name found) ↔
      ∃ f, d.Registered id name f ∧ ¬ call.Carries id ∧ found = call.slots.head?) ∧
    (∀ declared invoked, d.Refuses id name call (.shapeMismatch id name declared invoked) ↔
      ∃ f, d.Registered id name f ∧ call.Carries id ∧ f.shape ≠ call.shape ∧
        declared = f.shape ∧ invoked = call.shape) ∧
    (∀ f, d.Registered id name f → call.Carries id → f.shape = call.shape →
      ∃ c, f.Handed call c ∧ d.Runs id name call c) ∧
    (∀ c, d.Runs id name call c →
      ∃ f, d.Registered id name f ∧ call.Carries id ∧ f.shape = call.shape ∧ f.Handed call c) ∧
    (call.Carries id → ∀ (e : Directory Callback) (other : EngineId) (otherName : String),
      other ≠ id → ∃ cause, e.Refuses other otherName call cause) := by
  refine ⟨?_, fun engine => ?_, fun found => ?_, fun declared invoked => ?_,
    fun f hf hmarker hshape => ?_, fun c hc => ?_, fun hmarker e other otherName hother => ?_⟩
  · rw [Directory.refuses_iff, Directory.resolve_eq_unknownEngine_iff]
  · rw [Directory.refuses_iff, Directory.resolve_eq_unknownFunction_iff]
  · rw [Directory.refuses_iff, Directory.resolve_eq_markerMismatch_iff]
  · rw [Directory.refuses_iff, Directory.resolve_eq_shapeMismatch_iff]
  · obtain ⟨c, hc, hresolve⟩ := Directory.resolve_of_fitting hf hmarker hshape
    exact ⟨c, hc, Directory.runs_iff.2 hresolve⟩
  · exact Directory.resolve_eq_ok_iff.1 (Directory.runs_iff.1 hc)
  · obtain ⟨cause, hresolve⟩ := Directory.resolve_of_carries_other hmarker hother
    exact ⟨cause, Directory.refuses_iff.2 hresolve⟩

end EngineHost
