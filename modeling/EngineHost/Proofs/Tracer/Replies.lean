import EngineHost.Proofs.Guest.Typing
import EngineHost.Proofs.Tracer.Slots
import EngineHost.Proofs.Tracer.Traced
/-
What a guest has been told.  The talk of a traced run is the list of the guest's
own calls that an entry has answered, each with the arguments that the guest
passed and the value that came back, through the start function and the entry
export alike.

At every moment of the run the calls in its trace are the items of the talk,
numbered from zero.  The arguments of an item are all that the guest passed: the
types of a checked guest leave nothing for the marshalling to drop.
-/
namespace EngineHost

/-! ## Functions that a host can enter -/

/-- The start function of a module that checks can be entered. -/
theorem funcType?_start {m : Guest.Module} (hm : m.flaw? = none) {f : Nat}
    (hf : m.start = some f) : m.funcType? f = some {} := by
  unfold Guest.Module.flaw? at hm
  dsimp only at hm
  repeat' split at hm
  all_goals try cases hm
  rename_i hstart
  rw [hf] at hstart
  simpa using hstart

theorem funcType?_entry {m : Guest.Module} {config : TracerConfig} {f : Nat}
    (hf : m.entry? config = some f) : m.funcType? f = some {} := by
  unfold Guest.Module.entry? at hf
  split at hf
  case h_1 e _ =>
    obtain ⟨⟨_, htype⟩, ⟨⟩⟩ := Option.ite_none_right_eq_some.1 hf
    exact htype
  case h_2 => cases hf

theorem Guest.Module.env_runsIn {m : Guest.Module} {config : TracerConfig} :
    (m.env config).RunsIn m := ⟨rfl, rfl⟩

/-! ## Arguments -/

/-- A guest's value in the wide width.  Narrow integers are sign-extended. -/
def Guest.Value.wide : Guest.Value → Int64
  | .i32 w => w.toInt32.toInt64
  | .i64 w => w.toInt64
  | _ => 0

theorem EntryPoint.path_of_accepts {e : EntryPoint} {shape : CallShape}
    (h : e.accepts shape = true) : e.path = shape.path := by
  obtain ⟨path, target⟩ := e
  cases path <;> cases shape <;> first | rfl | cases h

theorem widen_narrow_args {args : List Guest.Value} (h : ∀ v ∈ args, v.type = .i32) :
    widen (args.filterMap fun
      | .i32 w => some w.toInt32
      | _ => none) = args.map Guest.Value.wide := by
  induction args with
  | nil => rfl
  | cons v args ih =>
    rw [List.forall_mem_cons] at h
    cases v with
    | i32 w => exact congrArg (List.cons _) (ih h.2)
    | i64 | f32 | f64 => cases h.1

theorem wide_args {args : List Guest.Value} (h : ∀ v ∈ args, v.type = .i64) :
    (args.filterMap fun
      | .i64 w => some w.toInt64
      | _ => none) = args.map Guest.Value.wide := by
  induction args with
  | nil => rfl
  | cons v args ih =>
    rw [List.forall_mem_cons] at h
    cases v with
    | i64 w => exact congrArg (List.cons _) (ih h.2)
    | i32 | f32 | f64 => cases h.1

/-- Behind the marker are all the arguments that the guest passed, in order. -/
theorem marshal_args {id : EngineId} {shape : CallShape} {args : List Guest.Value}
    (h : Guest.typesOf args = shape.funcType.params) :
    (marshal id shape.path args).args = args.map Guest.Value.wide := by
  have htype : ∀ v ∈ args, v.type = if shape.isWide then .i64 else .i32 := by
    intro v hv
    have hmem : v.type ∈ Guest.typesOf args := List.mem_map_of_mem hv
    rw [h] at hmem
    exact List.eq_of_mem_replicate hmem
  cases shape with
  | notify | i32 => exact widen_narrow_args htype
  | i64 => exact wide_args htype

/-- Every entry can serve the shape that it is bound to. -/
def Bindings.Accepted (bindings : Bindings) : Prop :=
  ∀ (name : String) (b : Binding), bindings[name]? = some b → b.entry.accepts b.shape = true

/-! ## Replies -/

/-- A call of the guest that an entry has answered. -/
structure Reply where
  name : String
  binding : Binding
  args : List Guest.Value
  value : Int32

namespace Reply

/-- The call as item number `k` of a log. -/
def item (k : Nat) (r : Reply) : HostCall :=
  { index := k.toUInt32, name := r.name, args := r.args.map Guest.Value.wide,
    result := if r.binding.shape.returnsValue then some r.value else none }

/-- The name is bound, and the arguments are of the types of its shape. -/
structure Fits (bindings : Bindings) (r : Reply) : Prop where
  bound : bindings[r.name]? = some r.binding
  typed : Guest.typesOf r.args = r.binding.shape.funcType.params

end Reply

def itemsOf (talk : List Reply) : List HostCall := talk.mapIdx Reply.item

theorem itemsOf_concat (talk : List Reply) (r : Reply) :
    itemsOf (talk ++ [r]) = itemsOf talk ++ [r.item talk.length] := by
  rw [itemsOf, List.mapIdx_append, List.mapIdx_cons, List.mapIdx_nil, Nat.zero_add, itemsOf]

theorem length_itemsOf (talk : List Reply) : (itemsOf talk).length = talk.length :=
  List.length_mapIdx

/-- The number of an item is its place, as long as the numbers reach. -/
theorem index_itemsOf {talk : List Reply} (hlength : talk.length < UInt32.size) {k : Nat}
    {item : HostCall} (h : (itemsOf talk)[k]? = some item) : item.index.toNat = k := by
  rw [itemsOf, List.getElem?_mapIdx] at h
  obtain ⟨r, hr, rfl⟩ := Option.map_eq_some_iff.1 h
  have hk : k < talk.length := (List.getElem?_eq_some_iff.1 hr).1
  exact UInt32.toNat_ofNat_of_lt' (Nat.lt_trans hk hlength)

/-! ## Talks -/

/-- Which of the two functions of the guest is running. -/
inductive Phase where
  | starting
  | running

section

variable {σ : Type} (host : Host σ) (config : TracerConfig) (plan : Plan) (linked : List Linked)

/-- What the guest has been told from the start in `s` up to a moment. -/
inductive Spoken (s : σ) : Phase → List Reply → Moment σ → Prop where
  | start {machine : Guest.Machine} {f : Nat} (hfilled : plan.filled? config = some machine)
      (hstart : plan.module.start = some f) :
      Spoken s .starting [] ⟨Guest.enter (plan.module.env config) f machine, {}, s⟩
  /-- There is no start function. -/
  | alone {machine : Guest.Machine} {ready : Guest.Machine × Trace} {f : Nat}
      (hfilled : plan.filled? config = some machine) (hnone : plan.module.start = none)
      (hready : prepareMemory config plan machine {} = .ok ready)
      (hentry : plan.module.entry? config = some f) :
      Spoken s .running [] ⟨Guest.enter (plan.module.env config) f ready.1, ready.2, s⟩
  /-- The start function has returned. -/
  | ready {talk : List Reply} {m : Guest.Machine} {trace : Trace} {t : σ}
      {ready : Guest.Machine × Trace} {f : Nat}
      (h : Spoken s .starting talk ⟨.ended .returned m, trace, t⟩)
      (hready : prepareMemory config plan m trace = .ok ready)
      (hentry : plan.module.entry? config = some f) :
      Spoken s .running talk ⟨Guest.enter (plan.module.env config) f ready.1, ready.2, t⟩
  | inside {phase : Phase} {talk : List Reply} {m : Guest.Machine} {trace : Trace} {t : σ}
      (h : Spoken s phase talk ⟨.next m, trace, t⟩) :
      Spoken s phase talk ⟨Guest.step (plan.module.env config) m, trace, t⟩
  | told {phase : Phase} {talk : List Reply} {index : Nat} {args : List Guest.Value}
      {m : Guest.Machine} {trace : Trace} {t u v : σ} {l : Linked} {b : Binding} {value : Int32}
      (h : Spoken s phase talk ⟨.host index args m, trace, t⟩) (hl : linked[index]? = some l)
      (hbound : l.definition = .bound b)
      (hanswered : Answered host plan l.name b args t (.ok value) u)
      (hheard : Heard host plan (b.itemOf plan trace l.name args value) u v) :
      Spoken s phase (talk ++ [⟨l.name, b, args, value⟩])
        ⟨.next (m.resume (resultValues (b.result? value))),
          trace.extend (b.itemOf plan trace l.name args value), v⟩

end

section

variable {σ : Type} {host : Host σ} {config : TracerConfig} {plan : Plan} {linked : List Linked}
  {s : σ} {phase : Phase} {talk : List Reply} {x : Moment σ}

/-- A talk goes on as the guest does. -/
theorem Spoken.moves (h : Spoken host config plan linked s phase talk x) {y : Moment σ}
    (hmoves : Relation.ReflTransGen (Moves host plan (plan.module.env config) linked) x y) :
    ∃ more, Spoken host config plan linked s phase (talk ++ more) y := by
  induction hmoves with
  | refl => exact ⟨[], by rwa [List.append_nil]⟩
  | tail _ hmove ih =>
    obtain ⟨more, ih⟩ := ih
    cases hmove with
    | inside m trace t => exact ⟨more, ih.inside⟩
    | served m hl hbound hserved =>
      cases hserved with
      | heard hanswered hheard =>
        exact ⟨more ++ [_], by
          rw [← List.append_assoc]
          exact ih.told hl hbound hanswered hheard⟩

/-! ## The types of a talk -/

variable (hm : plan.module.flaw? = none)
  (hlink : link config plan.bindings plan.module = .ok linked)
  (haccepted : plan.bindings.Accepted)

include hlink in
/-- A call of an import that is bound comes with arguments of its shape. -/
theorem typed_call {index : Nat} {args : List Guest.Value} {m : Guest.Machine}
    (h : Guest.StepTyped plan.module (.host index args m)) {l : Linked} {b : Binding}
    (hl : linked[index]? = some l) (hbound : l.definition = .bound b) :
    plan.bindings[l.name]? = some b ∧ Guest.typesOf args = b.shape.funcType.params ∧
      ∀ results, Guest.typesOf results = b.shape.funcType.results →
        Guest.MachineTyped plan.module (m.resume results) := by
  obtain ⟨type, htype, hargs, hresume⟩ := h
  rw [importedFuncs_of_link hlink, List.getElem?_map, hl, Option.map_some, Option.some.injEq]
    at htype
  subst htype
  cases (link_eq_ok hlink).1 l (List.mem_of_getElem? hl) with
  | halting => cases hbound
  | bound hb =>
    cases hbound
    exact ⟨hb, hargs, hresume⟩

/-- A guest gets what it was promised. -/
theorem typesOf_result {b : Binding} (hb : b.entry.accepts b.shape = true) (value : Int32) :
    Guest.typesOf (resultValues (b.result? value)) = b.shape.funcType.results := by
  rw [Binding.result?, EntryPoint.path_of_accepts hb]
  cases b.shape <;> rfl

theorem ready_typed {machine : Guest.Machine} {trace : Trace} {ready : Guest.Machine × Trace}
    (h : Guest.MachineTyped plan.module machine)
    (hready : prepareMemory config plan machine trace = .ok ready) :
    Guest.MachineTyped plan.module ready.1 := by
  obtain ⟨-, hmachine, -, -⟩ := prepareMemory_eq_ok hready
  rw [hmachine]
  exact h

theorem filled_typed {machine : Guest.Machine} (h : plan.filled? config = some machine) :
    Guest.MachineTyped plan.module machine := by
  obtain ⟨memory, -, rfl⟩ := placeSegments_of_filled h
  exact Guest.machineTyped_initial rfl rfl rfl

include hm hlink haccepted

theorem Spoken.typed (h : Spoken host config plan linked s phase talk x) :
    Guest.StepTyped plan.module x.step ∧ ∀ r ∈ talk, r.Fits plan.bindings := by
  have henv : (plan.module.env config).RunsIn plan.module := Guest.Module.env_runsIn
  induction h with
  | start hfilled hstart =>
    refine ⟨?_, nofun⟩
    exact Guest.enter_entry_typed hm henv (funcType?_start hm hstart) (filled_typed hfilled)
  | alone hfilled _ hready hentry =>
    refine ⟨?_, nofun⟩
    exact Guest.enter_entry_typed hm henv (funcType?_entry hentry)
      (ready_typed (filled_typed hfilled) hready)
  | ready _ hready hentry ih =>
    refine ⟨?_, ih.2⟩
    exact Guest.enter_entry_typed hm henv (funcType?_entry hentry) (ready_typed (ih.1 rfl) hready)
  | inside _ ih => exact ⟨Guest.step_typed hm henv ih.1, ih.2⟩
  | told _ hl hbound _ _ ih =>
    obtain ⟨hb, hargs, hresume⟩ := typed_call hlink ih.1 hl hbound
    refine ⟨hresume _ (typesOf_result (haccepted _ _ hb) _), fun r hr => ?_⟩
    rcases List.mem_append.1 hr with hr | hr
    · exact ih.2 r hr
    · rw [List.mem_singleton.1 hr]
      exact ⟨hb, hargs⟩

/-- The item of an answered call is the one that its reply stands for. -/
theorem itemOf_eq {index : Nat} {args : List Guest.Value} {m : Guest.Machine} {trace : Trace}
    {t : σ} (h : Spoken host config plan linked s phase talk ⟨.host index args m, trace, t⟩)
    (hcalls : trace.calls = itemsOf talk) {l : Linked} {b : Binding}
    (hl : linked[index]? = some l) (hbound : l.definition = .bound b) (value : Int32) :
    b.itemOf plan trace l.name args value =
      Reply.item talk.length ⟨l.name, b, args, value⟩ := by
  obtain ⟨hb, hargs, -⟩ := typed_call hlink (h.typed hm hlink haccepted).1 hl hbound
  have hpath := EntryPoint.path_of_accepts (haccepted _ _ hb)
  rw [Binding.itemOf, Trace.item, Reply.item, hcalls, length_itemsOf, hpath, marshal_args hargs,
    Binding.result?, hpath]
  cases b.shape <;> rfl

/-- The calls in the trace are the items of the talk. -/
theorem Spoken.calls (h : Spoken host config plan linked s phase talk x) :
    x.trace.calls = itemsOf talk := by
  induction h with
  | start => rfl
  | alone _ _ hready =>
    obtain ⟨-, -, -, hcalls⟩ := prepareMemory_eq_ok hready
    exact hcalls
  | ready _ hready _ ih =>
    obtain ⟨-, -, -, hcalls⟩ := prepareMemory_eq_ok hready
    exact hcalls.trans ih
  | inside _ ih => exact ih
  | @told _ talk _ args _ trace _ _ _ l b value h hl hbound _ _ ih =>
    rw [itemsOf_concat, ← itemOf_eq hm hlink haccepted h ih hl hbound, ← ih]
    rfl

end

end EngineHost
