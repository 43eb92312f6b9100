import EngineHost.Guest.Checking
import EngineHost.Guest.Machine
/-
Checked code runs with operands of the types it was checked with.

The checker follows a stack of types that may be open, the machine a stack of
values that never is.  A machine is typed when the code ahead of it checks from
the types of its operands, and every frame of its control stack checks from
what the frame's body leaves.  Code behind an instruction that never falls
through is checked from an open stack, and no typed machine gets there.

What this is for is `StepTyped` at a call of an imported function: the
arguments have exactly the declared types of its parameters.
-/
namespace EngineHost
namespace Guest

namespace Value

def type : Value → ValueType
  | .i32 _ => .i32
  | .i64 _ => .i64
  | .f32 _ => .f32
  | .f64 _ => .f64

theorem type_zero (t : ValueType) : (zero t).type = t := by cases t <;> rfl

end Value

/-- The types of values, in the order of the values. -/
def typesOf (vs : List Value) : List ValueType := vs.map Value.type

theorem typesOf_cons (v : Value) (vs : List Value) : typesOf (v :: vs) = v.type :: typesOf vs := rfl

theorem typesOf_append (a b : List Value) : typesOf (a ++ b) = typesOf a ++ typesOf b :=
  List.map_append

theorem typesOf_reverse (vs : List Value) : typesOf vs.reverse = (typesOf vs).reverse :=
  List.map_reverse

theorem length_typesOf (vs : List Value) : (typesOf vs).length = vs.length := List.length_map _

/-- Operands whose types split can be split themselves. -/
theorem take_drop_of_typesOf {vs : List Value} {upper lower : List ValueType}
    (h : typesOf vs = upper ++ lower) :
    typesOf (vs.take upper.length) = upper ∧ typesOf (vs.drop upper.length) = lower := by
  have htake : typesOf (vs.take upper.length) = (typesOf vs).take upper.length := List.map_take
  have hdrop : typesOf (vs.drop upper.length) = (typesOf vs).drop upper.length := List.map_drop
  rw [htake, hdrop, h, List.take_left, List.drop_left]
  exact ⟨rfl, rfl⟩

/-! ## Closed stacks -/

namespace Stack

/-- The stack of exactly these operands. -/
def closed (ts : List ValueType) : Stack := { types := ts }

theorem pop?_closed {ts : List ValueType} {t : ValueType} {s : Stack} :
    (closed ts).pop? t = some s ↔ ∃ rest, ts = t :: rest ∧ s = closed rest := by
  cases ts with
  | nil => simp [closed, pop?]
  | cons top rest =>
    by_cases h : top = t
    · simp [closed, pop?, h, eq_comm]
    · simp [closed, pop?, h]

theorem pop?_cons {ts : List ValueType} {t top : ValueType} {s : Stack} :
    (closed (top :: ts)).pop? t = some s ↔ top = t ∧ s = closed ts := by
  rw [pop?_closed]
  constructor
  · intro h
    obtain ⟨rest, heq, rfl⟩ := h
    cases heq
    exact ⟨rfl, rfl⟩
  · intro h
    obtain ⟨rfl, rfl⟩ := h
    exact ⟨ts, rfl, rfl⟩

theorem foldlM_pop?_closed {wanted ts : List ValueType} {s : Stack} :
    wanted.foldlM pop? (closed ts) = some s ↔ ∃ rest, ts = wanted ++ rest ∧ s = closed rest := by
  induction wanted generalizing ts with
  | nil => simp [eq_comm]
  | cons t wanted ih =>
    rw [List.foldlM_cons, Option.bind_eq_bind, Option.bind_eq_some_iff]
    constructor
    · intro h
      obtain ⟨inner, hpop, hrest⟩ := h
      obtain ⟨ts', rfl, rfl⟩ := pop?_closed.1 hpop
      obtain ⟨rest, rfl, rfl⟩ := ih.1 hrest
      exact ⟨rest, rfl, rfl⟩
    · intro h
      obtain ⟨rest, rfl, rfl⟩ := h
      exact ⟨closed (wanted ++ rest), pop?_closed.2 ⟨_, rfl, rfl⟩, ih.2 ⟨_, rfl, rfl⟩⟩

theorem popAll?_closed {wanted ts : List ValueType} {s : Stack} :
    (closed ts).popAll? wanted = some s ↔
      ∃ rest, ts = wanted.reverse ++ rest ∧ s = closed rest := foldlM_pop?_closed

theorem pushAll_closed (ts more : List ValueType) :
    (closed ts).pushAll more = closed (more.reverse ++ ts) := by
  induction more generalizing ts with
  | nil => rfl
  | cons t more ih =>
    rw [List.reverse_cons, List.append_assoc]
    exact ih (t :: ts)

theorem applyType?_closed {ts params results : List ValueType} {s : Stack} :
    (closed ts).applyType? params results = some s ↔
      ∃ rest, ts = params.reverse ++ rest ∧ s = closed (results.reverse ++ rest) := by
  simp only [applyType?, Option.map_eq_some_iff, popAll?_closed]
  constructor
  · intro h
    obtain ⟨_, ⟨rest, rfl, rfl⟩, rfl⟩ := h
    exact ⟨rest, rfl, pushAll_closed rest results⟩
  · intro h
    obtain ⟨rest, rfl, rfl⟩ := h
    exact ⟨_, ⟨rest, rfl, rfl⟩, pushAll_closed rest results⟩

theorem endsWith_closed {ts results : List ValueType} :
    (closed ts).endsWith results = true ↔ ts = results.reverse := by
  unfold endsWith
  split
  case h_1 rest h =>
    obtain ⟨left, rfl, rfl⟩ := popAll?_closed.1 h
    simp [closed]
  case h_2 h =>
    constructor
    · intro hf
      cases hf
    · intro hts
      have hpop : (closed ts).popAll? results = some (closed []) :=
        popAll?_closed.2 ⟨[], by simpa using hts, rfl⟩
      rw [h] at hpop
      cases hpop

end Stack

/-! ## Typed code -/

/-- What the code of a function with these locals can refer to. -/
def Module.scope (m : Module) (locals : List ValueType) : Scope :=
  { module := m, imported := m.importedFuncs, locals, hasMemory := m.memoryCount ≠ 0 }

/-- Code that checks from these operands on and ends with exactly `results`. -/
def CodeTyped (scope : Scope) (labels : Labels) (results : List ValueType) (code : Code)
    (ts : List ValueType) : Prop :=
  ∃ s, checkCode scope labels (.closed ts) code = some s ∧ s.endsWith results = true

theorem codeTyped_nil {scope : Scope} {labels : Labels} {results ts : List ValueType} :
    CodeTyped scope labels results [] ts ↔ ts = results.reverse := by
  simp [CodeTyped, checkCode, Stack.endsWith_closed]

/-- If an instruction leaves a closed stack, the code behind it goes on from
there. -/
theorem CodeTyped.rest {scope : Scope} {labels : Labels} {results ts after : List ValueType}
    {i : Instr} {code : Code} (h : CodeTyped scope labels results (i :: code) ts)
    (hi : checkInstr scope labels (.closed ts) i = some (.closed after)) :
    CodeTyped scope labels results code after := by
  obtain ⟨s, hs, hends⟩ := h
  rw [checkCode, hi] at hs
  exact ⟨s, hs, hends⟩

theorem CodeTyped.head {scope : Scope} {labels : Labels} {results ts : List ValueType}
    {i : Instr} {code : Code} (h : CodeTyped scope labels results (i :: code) ts) :
    ∃ s, checkInstr scope labels (.closed ts) i = some s := by
  obtain ⟨s, hs, _⟩ := h
  rw [checkCode] at hs
  obtain ⟨inner, hinner, _⟩ := Option.bind_eq_some_iff.1 hs
  exact ⟨inner, hinner⟩

/-! ## What an instruction checks for -/

section

variable {scope : Scope} {labels : Labels} {ts : List ValueType} {s : Stack}
  {result : Option ValueType} {label index : Nat}

theorem checkInstr_block {body : Code}
    (h : checkInstr scope labels (.closed ts) (.block result body) = some s) :
    CodeTyped scope (result.toList :: labels) result.toList body [] ∧
      s = .closed (result.toList.reverse ++ ts) := by
  obtain ⟨inner, hbody, h⟩ := Option.bind_eq_some_iff.1 h
  obtain ⟨hends, hpush⟩ := Option.ite_none_right_eq_some.1 h
  rw [Stack.pushAll_closed] at hpush
  cases hpush
  exact ⟨⟨inner, hbody, hends⟩, rfl⟩

theorem checkInstr_loop {body : Code}
    (h : checkInstr scope labels (.closed ts) (.loop result body) = some s) :
    CodeTyped scope ([] :: labels) result.toList body [] ∧
      s = .closed (result.toList.reverse ++ ts) := by
  obtain ⟨inner, hbody, h⟩ := Option.bind_eq_some_iff.1 h
  obtain ⟨hends, hpush⟩ := Option.ite_none_right_eq_some.1 h
  rw [Stack.pushAll_closed] at hpush
  cases hpush
  exact ⟨⟨inner, hbody, hends⟩, rfl⟩

theorem checkInstr_cond {yes no : Code}
    (h : checkInstr scope labels (.closed (.i32 :: ts)) (.cond result yes no) = some s) :
    CodeTyped scope (result.toList :: labels) result.toList yes [] ∧
      CodeTyped scope (result.toList :: labels) result.toList no [] ∧
      s = .closed (result.toList.reverse ++ ts) := by
  obtain ⟨yesEnd, hyes, h⟩ := Option.bind_eq_some_iff.1 h
  obtain ⟨noEnd, hno, h⟩ := Option.bind_eq_some_iff.1 h
  obtain ⟨hends, hpush⟩ := Option.ite_none_right_eq_some.1 h
  obtain ⟨hyesEnds, hnoEnds⟩ := Bool.and_eq_true_iff.1 hends
  change some ((Stack.closed ts).pushAll result.toList) = some s at hpush
  rw [Stack.pushAll_closed] at hpush
  cases hpush
  exact ⟨⟨yesEnd, hyes, hyesEnds⟩, ⟨noEnd, hno, hnoEnds⟩, rfl⟩

theorem checkInstr_br (h : checkInstr scope labels (.closed ts) (.br label) = some s) :
    ∃ target below, labels[label]? = some target ∧ ts = target.reverse ++ below := by
  obtain ⟨target, hlabel, h⟩ := Option.bind_eq_some_iff.1 h
  obtain ⟨after, hpop, -⟩ := Option.bind_eq_some_iff.1 h
  obtain ⟨below, hops, -⟩ := Stack.popAll?_closed.1 hpop
  exact ⟨target, below, hlabel, hops⟩

theorem checkInstr_brIf (h : checkInstr scope labels (.closed (.i32 :: ts)) (.brIf label) = some s) :
    ∃ target below, labels[label]? = some target ∧ ts = target.reverse ++ below ∧
      s = .closed ts := by
  obtain ⟨target, hlabel, happly⟩ := Option.bind_eq_some_iff.1 h
  change (Stack.closed ts).applyType? target target = some s at happly
  obtain ⟨below, rfl, rfl⟩ := Stack.applyType?_closed.1 happly
  exact ⟨target, below, hlabel, rfl, rfl⟩

theorem checkInstr_call (h : checkInstr scope labels (.closed ts) (.call index) = some s) :
    ∃ type below, scope.funcType? index = some type ∧ ts = type.params.reverse ++ below ∧
      s = .closed (type.results.reverse ++ below) := by
  obtain ⟨type, htype, happly⟩ := Option.bind_eq_some_iff.1 h
  obtain ⟨below, hops, rfl⟩ := Stack.applyType?_closed.1 happly
  exact ⟨type, below, htype, hops, rfl⟩

theorem checkInstr_localGet (h : checkInstr scope labels (.closed ts) (.localGet index) = some s) :
    ∃ t, scope.locals[index]? = some t ∧ s = .closed (t :: ts) := by
  obtain ⟨t, hlocal, hpush⟩ := Option.bind_eq_some_iff.1 h
  cases hpush
  exact ⟨t, hlocal, rfl⟩

theorem checkInstr_localSet {top : ValueType}
    (h : checkInstr scope labels (.closed (top :: ts)) (.localSet index) = some s) :
    scope.locals[index]? = some top ∧ s = .closed ts := by
  obtain ⟨t, hlocal, hpop⟩ := Option.bind_eq_some_iff.1 h
  obtain ⟨rfl, rfl⟩ := Stack.pop?_cons.1 hpop
  exact ⟨hlocal, rfl⟩

theorem checkInstr_globalGet (h : checkInstr scope labels (.closed ts) (.globalGet index) = some s) :
    s = .closed (.i32 :: ts) := by
  obtain ⟨writable, -, hpush⟩ := Option.bind_eq_some_iff.1 h
  cases hpush
  rfl

theorem checkInstr_globalSet
    (h : checkInstr scope labels (.closed (.i32 :: ts)) (.globalSet index) = some s) :
    s = .closed ts := by
  obtain ⟨writable, -, h⟩ := Option.bind_eq_some_iff.1 h
  obtain ⟨-, hpop⟩ := Option.ite_none_right_eq_some.1 h
  obtain ⟨-, rfl⟩ := Stack.pop?_cons.1 hpop
  rfl

theorem checkInstr_memoryGrow
    (h : checkInstr scope labels (.closed (.i32 :: ts)) .memoryGrow = some s) :
    s = .closed (.i32 :: ts) := by
  obtain ⟨-, happly⟩ := Option.ite_none_right_eq_some.1 h
  cases happly
  rfl

end

/-! ## Typed machines -/

/-- Frames that take over when a body with these locals, labels and results is
done.  A call starts the labels anew, since no branch leaves a function except
by returning from it. -/
inductive ControlTyped (m : Module) :
    List ValueType → Labels → List ValueType → List Control → Prop where
  | outermost (locals results : List ValueType) : ControlTyped m locals [] results []
  | block {locals results outer : List ValueType} {labels : Labels} {below : List Value}
      {rest : Code} {frames : List Control}
      (hrest : CodeTyped (m.scope locals) labels outer rest (results.reverse ++ typesOf below))
      (hframes : ControlTyped m locals labels outer frames) :
      ControlTyped m locals (results :: labels) results
        (.block results.length below rest :: frames)
  | loop {locals results outer : List ValueType} {labels : Labels} {below : List Value}
      {body rest : Code} {frames : List Control}
      (hbody : CodeTyped (m.scope locals) ([] :: labels) results body [])
      (hrest : CodeTyped (m.scope locals) labels outer rest (results.reverse ++ typesOf below))
      (hframes : ControlTyped m locals labels outer frames) :
      ControlTyped m locals ([] :: labels) results (.loop body below rest :: frames)
  | call {locals results outer : List ValueType} {labels : Labels} {saved : Array Value}
      {below : List Value} {rest : Code} {frames : List Control}
      (hrest : CodeTyped (m.scope (typesOf saved.toList)) labels outer rest
        (results.reverse ++ typesOf below))
      (hframes : ControlTyped m (typesOf saved.toList) labels outer frames) :
      ControlTyped m locals [results] results (.call results.length saved below rest :: frames)

/-- A machine whose code goes on from the operands it has. -/
def MachineTyped (m : Module) (machine : Machine) : Prop :=
  ∃ labels results,
    CodeTyped (m.scope (typesOf machine.locals.toList)) labels results machine.code
      (typesOf machine.operands) ∧
    ControlTyped m (typesOf machine.locals.toList) labels results machine.control

/-- What a step leads to.  A machine that has returned can be entered again.  The
host may count on the types of the arguments that an imported function is called
with, and owes results of the declared types. -/
def StepTyped (m : Module) : Step → Prop
  | .next machine => MachineTyped m machine
  | .ended how machine => how = .returned → MachineTyped m machine
  | .host index args machine => ∃ type, m.importedFuncs[index]? = some type ∧
      typesOf args = type.params ∧
      ∀ results, typesOf results = type.results → MachineTyped m (machine.resume results)

/-- The environment in which a module's own code runs. -/
structure Env.RunsIn (env : Env) (m : Module) : Prop where
  module : env.module = m
  imported : env.imported = m.importedFuncs.toArray

/-! ## What each way of going on preserves -/

section

variable {m : Module} {env : Env} {locals results : List ValueType} {labels : Labels}
  {frames : List Control} {machine : Machine}

theorem turn_typed (h : MachineTyped m machine) : StepTyped m (turn machine) := by
  unfold turn
  split
  · exact fun h => nomatch h
  · exact h

theorem leave_typed (h : MachineTyped m machine) (hcode : machine.code = []) :
    StepTyped m (leave machine) := by
  have hmachine := h
  obtain ⟨labels, results, hc, hf⟩ := h
  rw [hcode, codeTyped_nil] at hc
  unfold leave
  cases hcontrol : machine.control with
  | nil => exact fun _ => hmachine
  | cons frame frames =>
    rw [hcontrol] at hf
    cases hf with
    | block hrest hframes | loop _ hrest hframes =>
      refine ⟨_, _, ?_, hframes⟩
      show CodeTyped _ _ _ _ (typesOf (machine.operands ++ _))
      rw [typesOf_append, hc]
      exact hrest
    | call hrest hframes =>
      refine ⟨_, _, ?_, hframes⟩
      show CodeTyped _ _ _ _ (typesOf (machine.operands.take _ ++ _))
      have hlen : results.length = machine.operands.length := by
        rw [← length_typesOf, hc, List.length_reverse]
      rw [hlen, List.take_length, typesOf_append, hc]
      exact hrest

/-- A branch takes the operands its label asks for to where the label leads. -/
theorem branch_typed {label : Nat} {target below : List ValueType}
    (hlabel : labels[label]? = some target)
    (hops : typesOf machine.operands = target.reverse ++ below)
    (hcontrol : ControlTyped m (typesOf machine.locals.toList) labels results frames) :
    StepTyped m (branch label frames machine) := by
  induction label generalizing labels results frames with
  | zero =>
    cases hcontrol with
    | outermost => simp at hlabel
    | block hrest hframes | call hrest hframes =>
      rw [List.getElem?_cons_zero, Option.some.injEq] at hlabel
      subst hlabel
      have htake := (take_drop_of_typesOf hops).1
      rw [List.length_reverse] at htake
      refine ⟨_, _, ?_, hframes⟩
      show CodeTyped _ _ _ _ (typesOf (machine.operands.take _ ++ _))
      rw [typesOf_append, htake]
      exact hrest
    | loop hbody hrest hframes =>
      exact turn_typed ⟨_, _, hbody, .loop hbody hrest hframes⟩
  | succ label ih =>
    cases hcontrol with
    | outermost => simp at hlabel
    | block hrest hframes | loop _ hrest hframes => exact ih hlabel hframes
    | call hrest hframes => simp at hlabel

/-- A module without a flaw has checked every body. -/
theorem Module.bodyChecks_of_mem (hm : m.flaw? = none) {f : Func} (hf : f ∈ m.funcs) :
    m.bodyChecks m.importedFuncs f = true := by
  unfold Module.flaw? at hm
  dsimp only at hm
  repeat' split at hm
  all_goals try cases hm
  rw [Option.map_eq_none_iff, Array.findIdx?_eq_none_iff] at hm
  simpa using hm f hf

theorem body_typed (hm : m.flaw? = none) {f : Func} (hf : f ∈ m.funcs) :
    CodeTyped (m.scope (f.type.params ++ f.locals)) [f.type.results] f.type.results f.code [] := by
  have hchecks := Module.bodyChecks_of_mem hm hf
  unfold Module.bodyChecks at hchecks
  dsimp only at hchecks
  split at hchecks
  case h_1 s hs => exact ⟨s, hs, hchecks⟩
  case h_2 => cases hchecks

theorem typesOf_zeros (ts : List ValueType) : typesOf (ts.map Value.zero) = ts := by
  induction ts with
  | nil => rfl
  | cons t ts ih => rw [List.map_cons, typesOf_cons, Value.type_zero, ih]

/-- Entering a function takes its arguments, and what it leaves is what the code
behind the call counts on. -/
theorem enter_typed (hm : m.flaw? = none) (henv : env.RunsIn m) {function : Nat}
    {type : FuncType} {below : List ValueType} (hfunction : m.funcType? function = some type)
    (hops : typesOf machine.operands = type.params.reverse ++ below)
    (hcode : CodeTyped (m.scope (typesOf machine.locals.toList)) labels results machine.code
      (type.results.reverse ++ below))
    (hcontrol : ControlTyped m (typesOf machine.locals.toList) labels results machine.control) :
    StepTyped m (enter env function machine) := by
  obtain ⟨htake, hdrop⟩ := take_drop_of_typesOf hops
  rw [List.length_reverse] at htake hdrop
  have hargs : typesOf (machine.operands.take type.params.length).reverse = type.params := by
    rw [typesOf_reverse, htake, List.reverse_reverse]
  unfold Module.funcType? at hfunction
  unfold enter
  rw [henv.module, henv.imported]
  simp only [List.getElem?_toArray, List.size_toArray, takeArgs]
  cases himported : m.importedFuncs[function]? with
  | some imported =>
    simp only [himported, Option.some.injEq] at hfunction
    subst hfunction
    refine ⟨imported, himported, hargs, fun answer hanswer => ⟨labels, results, ?_, hcontrol⟩⟩
    show CodeTyped _ _ _ _ (typesOf (answer.reverse ++ machine.operands.drop _))
    rw [typesOf_append, typesOf_reverse, hanswer, hdrop]
    exact hcode
  | none =>
    simp only [himported, Option.map_eq_some_iff] at hfunction
    obtain ⟨f, hf, rfl⟩ := hfunction
    simp only [hf]
    split
    · exact fun h => nomatch h
    · split
      · exact fun h => nomatch h
      · refine ⟨[f.type.results], f.type.results, ?_, ?_⟩
        · show CodeTyped (m.scope (typesOf (_ ++ _ : List Value).toArray.toList)) _ _ f.code []
          rw [List.toList_toArray, typesOf_append, hargs, typesOf_zeros]
          exact body_typed hm (Array.mem_of_getElem? hf)
        · exact .call (by rw [hdrop]; exact hcode) hcontrol

/-- An instruction that only computes leaves operands of the types that its
check foresees. -/
theorem compute?_typed {scope : Scope} {i : Instr} {memory : ByteArray} {ops after : List Value}
    {s : Stack} (h : compute? memory i ops = some after)
    (hcheck : checkInstr scope labels (.closed (typesOf ops)) i = some s) :
    s = .closed (typesOf after) := by
  unfold compute? at h
  split at h
  case h_18 => cases h
  all_goals
    simp only [checkInstr, typesOf_cons, Value.type, Option.ite_none_right_eq_some] at hcheck
  case h_3 =>
    cases h
    exact (Option.some.inj hcheck.2).symm
  case h_4 =>
    obtain ⟨_, h⟩ := Option.ite_none_right_eq_some.1 h
    cases h
    exact (Option.some.inj hcheck.2).symm
  case h_9 | h_10 =>
    obtain ⟨_, _, rfl⟩ := Option.map_eq_some_iff.1 h
    exact (Option.some.inj hcheck).symm
  all_goals
    cases h
    exact (Option.some.inj hcheck).symm

theorem Store.operands_of_bits {kind : Store} {value : Value} {bits : UInt64}
    (h : kind.bits? value = some bits) : kind.operands = [.i32, value.type] := by
  cases kind <;> cases value <;> simp [Store.bits?] at h <;> rfl

theorem write?_typed {scope : Scope} {i : Instr} {memory : ByteArray} {ops : List Value}
    {w : Write} {s : Stack} (h : write? memory i ops = some w)
    (hcheck : checkInstr scope labels (.closed (typesOf ops)) i = some s) :
    s = .closed (typesOf w.rest) := by
  unfold write? at h
  split at h
  case h_4 => cases h
  all_goals
    simp only [checkInstr, typesOf_cons, Value.type, Option.ite_none_right_eq_some] at hcheck
  case h_1 kind _ value _ _ =>
    split at h
    case h_2 => cases h
    case h_1 bits hbits =>
      obtain ⟨_, h⟩ := Option.ite_none_right_eq_some.1 h
      cases h
      obtain ⟨_, hcheck⟩ := hcheck
      rw [Store.operands_of_bits hbits, Stack.applyType?_closed] at hcheck
      obtain ⟨rest, hrest, rfl⟩ := hcheck
      cases hrest
      rfl
  all_goals
    obtain ⟨_, h⟩ := Option.ite_none_right_eq_some.1 h
    cases h
    exact (Option.some.inj hcheck.2).symm

/-- Setting a local to a value of its type keeps the types of the locals. -/
theorem typesOf_setIfInBounds {vs : Array Value} {index : Nat} {v : Value}
    (h : (typesOf vs.toList)[index]? = some v.type) :
    typesOf (vs.setIfInBounds index v).toList = typesOf vs.toList := by
  rw [Array.toList_setIfInBounds, typesOf, List.map_set]
  apply List.ext_getElem?
  intro i
  rw [List.getElem?_set]
  split
  case isTrue heq =>
    subst heq
    split
    · exact h.symm
    case isFalse hlen =>
      exact (List.getElem?_eq_none_iff.2 (Nat.le_of_not_lt hlen)).symm
  case isFalse => rfl

theorem execute_typed (hm : m.flaw? = none) (henv : env.RunsIn m) {i : Instr}
    (hcode : CodeTyped (m.scope (typesOf machine.locals.toList)) labels results
      (i :: machine.code) (typesOf machine.operands))
    (hcontrol : ControlTyped m (typesOf machine.locals.toList) labels results machine.control) :
    StepTyped m (execute env i machine) := by
  obtain ⟨s, hi⟩ := hcode.head
  unfold execute
  split
  case h_1 result body =>
    obtain ⟨hbody, rfl⟩ := checkInstr_block hi
    exact ⟨_, _, hbody, .block (hcode.rest hi) hcontrol⟩
  case h_2 result body =>
    obtain ⟨hbody, rfl⟩ := checkInstr_loop hi
    exact turn_typed ⟨_, _, hbody, .loop hbody (hcode.rest hi) hcontrol⟩
  case h_3 result yes no c ops hops =>
    rw [hops, typesOf_cons] at hi hcode
    obtain ⟨hyes, hno, rfl⟩ := checkInstr_cond hi
    refine ⟨_, _, ?_, .block (hcode.rest hi) hcontrol⟩
    show CodeTyped _ _ _ (if c ≠ 0 then yes else no) _
    split
    · exact hyes
    · exact hno
  case h_4 label =>
    obtain ⟨target, below, hlabel, hops⟩ := checkInstr_br hi
    exact branch_typed hlabel hops hcontrol
  case h_5 label c ops hops =>
    rw [hops, typesOf_cons] at hi hcode
    obtain ⟨target, below, hlabel, htypes, rfl⟩ := checkInstr_brIf hi
    dsimp only
    split
    · exact branch_typed hlabel htypes hcontrol
    · exact ⟨_, _, hcode.rest hi, hcontrol⟩
  case h_6 function =>
    obtain ⟨type, below, htype, hops, rfl⟩ := checkInstr_call hi
    exact enter_typed hm henv htype hops (hcode.rest hi) hcontrol
  case h_7 index =>
    obtain ⟨t, hlocal, rfl⟩ := checkInstr_localGet hi
    split
    case h_1 v hv =>
      have ht : t = v.type := by
        simp only [Module.scope, typesOf, List.getElem?_map, Array.getElem?_toList, hv,
          Option.map_some, Option.some.injEq] at hlocal
        exact hlocal.symm
      subst ht
      exact ⟨_, _, hcode.rest hi, hcontrol⟩
    case h_2 => exact fun h => nomatch h
  case h_8 index v ops hops =>
    rw [hops, typesOf_cons] at hi hcode
    obtain ⟨hlocal, rfl⟩ := checkInstr_localSet hi
    have hlocals := typesOf_setIfInBounds hlocal
    refine ⟨labels, results, ?_, ?_⟩
    · show CodeTyped (m.scope (typesOf (machine.locals.setIfInBounds index v).toList)) _ _ _ _
      rw [hlocals]
      exact hcode.rest hi
    · show ControlTyped m (typesOf (machine.locals.setIfInBounds index v).toList) _ _ _
      rw [hlocals]
      exact hcontrol
  case h_9 index =>
    obtain rfl := checkInstr_globalGet hi
    split
    · exact ⟨_, _, hcode.rest hi, hcontrol⟩
    · exact fun h => nomatch h
  case h_10 index w ops hops =>
    rw [hops, typesOf_cons] at hi hcode
    obtain rfl := checkInstr_globalSet hi
    exact ⟨_, _, hcode.rest hi, hcontrol⟩
  case h_11 pages ops hops =>
    rw [hops, typesOf_cons] at hi hcode
    obtain rfl := checkInstr_memoryGrow hi
    exact ⟨_, _, hcode.rest hi, hcontrol⟩
  case h_12 | h_13 | h_14 =>
    split
    case h_1 w hw =>
      obtain rfl := write?_typed hw hi
      exact ⟨_, _, hcode.rest hi, hcontrol⟩
    case h_2 => exact fun h => nomatch h
  case h_15 =>
    split
    case h_1 after hafter =>
      obtain rfl := compute?_typed hafter hi
      exact ⟨_, _, hcode.rest hi, hcontrol⟩
    case h_2 => exact fun h => nomatch h

/-- One step of a typed machine. -/
theorem step_typed (hm : m.flaw? = none) (henv : env.RunsIn m) (h : MachineTyped m machine) :
    StepTyped m (step env machine) := by
  unfold step
  split
  case h_1 hcode => exact leave_typed h hcode
  case h_2 i rest hcode =>
    obtain ⟨labels, results, hc, hf⟩ := h
    rw [hcode] at hc
    exact execute_typed hm henv hc hf

/-- A machine at rest can enter a function that takes nothing and gives
nothing. -/
theorem enter_entry_typed (hm : m.flaw? = none) (henv : env.RunsIn m) {function : Nat}
    (hfunction : m.funcType? function = some {}) (h : MachineTyped m machine) :
    StepTyped m (enter env function machine) := by
  obtain ⟨labels, results, hcode, hcontrol⟩ := h
  exact enter_typed hm henv hfunction rfl hcode hcontrol

theorem machineTyped_initial (hcode : machine.code = []) (hoperands : machine.operands = [])
    (hcontrol : machine.control = []) : MachineTyped m machine := by
  refine ⟨[], [], ?_, ?_⟩
  · rw [hcode, hoperands]
    exact codeTyped_nil.2 rfl
  · rw [hcontrol]
    exact .outermost _ _

end

end Guest
end EngineHost
