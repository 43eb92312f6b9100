import EngineHost.Proofs.Tracer.Traced
/-
Memories as paintings.  A memory is the memory of a fresh instance with strokes
laid over it: patches, and what the guest writes or grows.  A byte that a patch
sets stays as it was set until a later stroke covers it.
-/
namespace EngineHost

inductive Stroke where
  | patch (p : Patch)
  /-- The guest puts bytes into its memory. -/
  | write (address : Nat) (data : ByteArray)
  /-- The guest makes its memory longer. -/
  | grow (size : Nat)

namespace Stroke

/-- What a memory becomes under a stroke that has room in it. -/
inductive Turns : Stroke → ByteArray → ByteArray → Prop where
  | patch {p : Patch} {a b : ByteArray} (hpatch : p.applyTo a = .ok b) : Turns (.patch p) a b
  | write {address : Nat} {data a : ByteArray} (hfits : address + data.size ≤ a.size) :
      Turns (.write address data) a (Bytes.overlay a address data)
  | grow (size : Nat) (a : ByteArray) : Turns (.grow size) a (a ++ Bytes.zeros size)

/-- The bytes that a stroke sets. -/
def Covers : Stroke → Nat → Prop
  | .patch p, i => p.Covers i
  | .write address data, i => address ≤ i ∧ i < address + data.size
  | .grow _, _ => False

def patch? : Stroke → Option Patch
  | .patch p => some p
  | _ => none

end Stroke

/-- The patches among strokes, in their order. -/
def patchesOf (strokes : List Stroke) : List Patch := strokes.filterMap Stroke.patch?

/-- Strokes one after another. -/
inductive Paints : ByteArray → List Stroke → ByteArray → Prop where
  | nil (a : ByteArray) : Paints a [] a
  | cons {stroke : Stroke} {strokes : List Stroke} {a b c : ByteArray}
      (hturns : stroke.Turns a b) (hrest : Paints b strokes c) : Paints a (stroke :: strokes) c

namespace Paints

variable {a b c : ByteArray} {strokes strokes' : List Stroke} {stroke : Stroke}

theorem append (h : Paints a strokes b) (h' : Paints b strokes' c) :
    Paints a (strokes ++ strokes') c := by
  induction h with
  | nil => exact h'
  | cons hturns _ ih => exact .cons hturns (ih h')

theorem one (h : stroke.Turns a b) : Paints a [stroke] b := .cons h (.nil b)

theorem patches {ps : List Patch} (h : ∀ p ∈ ps, p.FitsIn a.size) :
    Paints a (ps.map .patch) (patchAll a ps) := by
  induction ps generalizing a with
  | nil => exact .nil a
  | cons p ps ih =>
    rw [List.forall_mem_cons] at h
    refine .cons (.patch (Patch.applyTo_eq_ok_iff.2 ⟨h.1, rfl⟩)) (ih fun q hq => ?_)
    rw [Patch.size_overlay h.1]
    exact h.2 q hq

end Paints

theorem patchesOf_append {strokes strokes' : List Stroke} :
    patchesOf (strokes ++ strokes') = patchesOf strokes ++ patchesOf strokes' :=
  List.filterMap_append

theorem patchesOf_patches {ps : List Patch} : patchesOf (ps.map .patch) = ps := by
  rw [patchesOf, List.filterMap_map]
  exact List.filterMap_some

/-! ## What can be seen -/

section

variable {a b : ByteArray} {stroke : Stroke} {strokes : List Stroke} {i : Nat}

theorem Stroke.Turns.byteAt (h : stroke.Turns a b) (hcovers : ¬ stroke.Covers i) :
    Bytes.byteAt b i = Bytes.byteAt a i := by
  cases h with
  | patch hpatch =>
    obtain ⟨hfits, rfl⟩ := Patch.applyTo_eq_ok_iff.1 hpatch
    exact (Bytes.byteAt_overlay hfits.2 i).trans (if_neg hcovers)
  | write hfits => exact (Bytes.byteAt_overlay hfits i).trans (if_neg hcovers)
  | grow size =>
    rw [Bytes.byteAt_append]
    split
    case isTrue => rfl
    case isFalse houtside =>
      rw [Bytes.byteAt_zeros, Bytes.byteAt_eq_zero (Nat.le_of_not_lt houtside)]

theorem Paints.byteAt (h : Paints a strokes b) (hcovers : ∀ stroke ∈ strokes, ¬ stroke.Covers i) :
    Bytes.byteAt b i = Bytes.byteAt a i := by
  induction h with
  | nil => rfl
  | cons hturns _ ih =>
    rw [List.forall_mem_cons] at hcovers
    rw [ih hcovers.2, hturns.byteAt hcovers.1]

/-- No stroke makes a memory shorter. -/
theorem Paints.size_le (h : Paints a strokes b) : a.size ≤ b.size := by
  induction h with
  | nil => exact Nat.le_refl _
  | cons hturns _ ih =>
    refine Nat.le_trans ?_ ih
    cases hturns with
    | patch hpatch =>
      obtain ⟨hfits, rfl⟩ := Patch.applyTo_eq_ok_iff.1 hpatch
      exact Nat.le_of_eq (Patch.size_overlay hfits).symm
    | write hfits => exact Nat.le_of_eq (Bytes.size_overlay hfits).symm
    | grow size =>
      rw [ByteArray.size_append]
      exact Nat.le_add_right _ _

/-- A byte that a patch sets can be seen, unless a later stroke covers it. -/
theorem Paints.visible {before after : List Stroke} {p : Patch}
    (h : Paints a (before ++ .patch p :: after) b) (hp : p.Covers i)
    (hafter : ∀ stroke ∈ after, ¬ stroke.Covers i) :
    Bytes.byteAt b i = Bytes.byteAt p.data (i - p.offset.toNat) := by
  induction before generalizing a with
  | cons stroke before ih =>
    cases h with
    | cons _ hrest => exact ih hrest
  | nil =>
    cases h with
    | cons hturns hrest =>
      cases hturns with
      | patch hpatch =>
        obtain ⟨hfits, rfl⟩ := Patch.applyTo_eq_ok_iff.1 hpatch
        rw [hrest.byteAt hafter]
        exact (Bytes.byteAt_overlay hfits.2 i).trans (if_pos hp)

end

/-! ## Guests at work -/

namespace Guest

def Step.machine : Step → Machine
  | .next m | .ended _ m | .host _ _ m => m

/-- What an instruction does to memory. -/
def Instr.strokes (env : Env) (memory : ByteArray) : Instr → List Value → List Stroke
  | .memoryGrow, .i32 pages :: _ =>
    if memory.size / pageSize + pages.toNat ≤ env.pageLimit then [.grow (pages.toNat * pageSize)]
    else []
  | i, ops => ((write? memory i ops).map fun w => .write w.address w.data).toList

/-- What a guest does to its memory with its next step. -/
def Machine.strokes (env : Env) (m : Machine) : List Stroke :=
  match m.code with
  | [] => []
  | i :: _ => i.strokes env m.memory m.operands

section

variable {env : Env} {m : Machine}

theorem turn_memory : (turn m).machine.memory = m.memory := by
  unfold turn
  split <;> rfl

theorem enter_memory {f : Nat} : (enter env f m).machine.memory = m.memory := by
  unfold enter
  dsimp only
  repeat' split
  all_goals rfl

theorem leave_memory : (leave m).machine.memory = m.memory := by
  unfold leave
  split <;> rfl

theorem branch_memory {label : Nat} {control : List Control} :
    (branch label control m).machine.memory = m.memory := by
  fun_induction branch label control m
  case case2 => exact turn_memory
  all_goals first | rfl | assumption

theorem length_littleEndian {count : Nat} {w : UInt64} : (littleEndian count w).length = count := by
  induction count generalizing w with
  | zero => rfl
  | succ count ih => exact congrArg (· + 1) ih

/-- What is written has room. -/
theorem write?_fits {memory : ByteArray} {i : Instr} {ops : List Value} {w : Write}
    (h : write? memory i ops = some w) : w.address + w.data.size ≤ memory.size := by
  unfold write? at h
  split at h
  case h_1 kind offset value base rest =>
    split at h
    case h_1 bits _ =>
      obtain ⟨hfits, ⟨⟩⟩ := Option.ite_none_right_eq_some.1 h
      have hsize : (⟨(littleEndian kind.byteCount bits).toArray⟩ : ByteArray).size =
          kind.byteCount := by
        show (littleEndian kind.byteCount bits).toArray.size = _
        rw [List.size_toArray, length_littleEndian]
      rw [hsize]
      exact of_decide_eq_true hfits
    case h_2 => cases h
  case h_2 count byte target rest =>
    obtain ⟨hfits, ⟨⟩⟩ := Option.ite_none_right_eq_some.1 h
    show _ + (Array.replicate count.toNat byte.toUInt8).size ≤ _
    rw [Array.size_replicate]
    exact of_decide_eq_true hfits
  case h_3 count source target rest =>
    obtain ⟨hfits, ⟨⟩⟩ := Option.ite_none_right_eq_some.1 h
    have htarget := of_decide_eq_true (Bool.and_eq_true_iff.1 hfits).1
    simp only [ByteArray.size_extract]
    omega
  case h_4 => cases h

theorem Instr.strokes_eq_nil {memory : ByteArray} {i : Instr} {ops : List Value}
    (hstore : ∀ (kind : Store) (offset : Nat), i = .store kind offset → False)
    (hfill : i = .memoryFill → False) (hcopy : i = .memoryCopy → False)
    (hgrow : ∀ (pages : UInt32) (rest : List Value),
      i = .memoryGrow → ops = .i32 pages :: rest → False) : i.strokes env memory ops = [] := by
  unfold strokes
  split
  case h_1 => exact (hgrow _ _ rfl rfl).elim
  case h_2 =>
    unfold write?
    split
    case h_1 => exact (hstore _ _ rfl).elim
    case h_2 => exact (hfill rfl).elim
    case h_3 => exact (hcopy rfl).elim
    case h_4 => rfl

/-- What is written is a stroke, if there is room for it. -/
theorem write_paints {i : Instr} {ops : List Value} :
    Paints m.memory ((write? m.memory i ops).map fun w => .write w.address w.data).toList
      (match write? m.memory i ops with
      | some w =>
        Step.next { m with operands := w.rest, memory := Bytes.overlay m.memory w.address w.data }
      | none => Step.ended .trapped m).machine.memory := by
  cases hw : write? m.memory i ops with
  | some w => exact .one (.write (write?_fits hw))
  | none => exact .nil _

theorem execute_paints {i : Instr} :
    Paints m.memory (i.strokes env m.memory m.operands) (execute env i m).machine.memory := by
  have hsame : ∀ {b}, b = m.memory → Paints m.memory [] b := fun h => h ▸ .nil _
  unfold execute
  split
  case h_1 | h_3 | h_8 | h_10 => exact hsame rfl
  case h_2 => exact hsame turn_memory
  case h_4 => exact hsame branch_memory
  case h_5 =>
    dsimp only
    split
    · exact hsame branch_memory
    · exact hsame rfl
  case h_6 => exact hsame enter_memory
  case h_7 | h_9 =>
    split
    · exact hsame rfl
    · exact hsame rfl
  case h_11 pages ops hops =>
    rw [hops, Instr.strokes]
    unfold grow
    dsimp only
    split
    case isTrue => exact .one (.grow _ _)
    case isFalse => exact .nil _
  case h_12 | h_13 | h_14 => exact write_paints
  case h_15 hstore hfill hcopy _ _ _ _ hgrow =>
    rw [Instr.strokes_eq_nil hstore hfill hcopy hgrow]
    split
    · exact .nil _
    · exact .nil _

theorem step_paints : Paints m.memory (m.strokes env) (step env m).machine.memory := by
  unfold step Machine.strokes
  cases m.code with
  | nil =>
    dsimp only
    rw [leave_memory]
    exact .nil _
  | cons i rest => exact execute_paints (m := { m with code := rest, meter := m.meter.spend i.cost })

section

variable {i : Instr} {rest : Code} {w : Write} (hcode : m.code = i :: rest)
  (hwrite : write? m.memory i m.operands = some w)

include hcode hwrite

/-- An instruction that writes, with room for what it writes. -/
theorem step_of_write : step env m = .next { m with
    code := rest, meter := m.meter.spend i.cost, operands := w.rest,
    memory := Bytes.overlay m.memory w.address w.data } := by
  unfold step
  rw [hcode]
  cases i with
  | store | memoryFill | memoryCopy =>
    unfold execute
    dsimp only
    rw [hwrite]
  | _ => cases hwrite

theorem Machine.strokes_of_write : m.strokes env = [.write w.address w.data] := by
  unfold strokes
  rw [hcode]
  show i.strokes env m.memory m.operands = _
  unfold Instr.strokes
  split
  case h_1 => cases hwrite
  case h_2 =>
    rw [hwrite]
    rfl

end

theorem patchesOf_write {w : Option Write} :
    patchesOf (w.map fun w => .write w.address w.data).toList = [] := by
  cases w with
  | some w => rfl
  | none => rfl

theorem Machine.strokes_patches : patchesOf (m.strokes env) = [] := by
  unfold Machine.strokes
  split
  case h_1 => rfl
  case h_2 =>
    unfold Instr.strokes
    split
    case h_1 =>
      split
      · rfl
      · rfl
    case h_2 => exact patchesOf_write

end

end Guest

section

variable {σ : Type} (host : Host σ) (plan : Plan) (env : Guest.Env) (linked : List Linked)

/-- What the guest does to its memory at a moment. -/
def Moment.strokes (x : Moment σ) : List Stroke :=
  match x.step with
  | .next m => m.strokes env
  | .ended _ _ | .host _ _ _ => []

/-- From one moment to another, with all that the guest does to its memory on the
way. -/
inductive Works : Moment σ → List Stroke → Moment σ → Prop where
  | here (x : Moment σ) : Works x [] x
  | move {x y z : Moment σ} {strokes : List Stroke} (hmove : Moves host plan env linked x y)
      (hrest : Works y strokes z) : Works x (x.strokes env ++ strokes) z

end

section

variable {σ : Type} {host : Host σ} {plan : Plan} {env : Guest.Env} {linked : List Linked}
  {x y z : Moment σ} {strokes : List Stroke} {stage : Stage} {t : σ}

theorem Moves.paints (h : Moves host plan env linked x y) :
    Paints x.step.machine.memory (x.strokes env) y.step.machine.memory := by
  cases h with
  | inside m => exact Guest.step_paints
  | served m => exact .nil _

theorem Moment.strokes_patches : patchesOf (x.strokes env) = [] := by
  unfold strokes
  split
  case h_1 => exact Guest.Machine.strokes_patches
  case h_2 => rfl
  case h_3 => rfl

theorem Stops.memory (h : Stops host plan linked x stage t) :
    x.step.machine.memory = stage.machine.memory := by
  cases h with
  | ended | unlinked | halted | faulted => rfl

namespace Works

theorem paints (h : Works host plan env linked x strokes y) :
    Paints x.step.machine.memory strokes y.step.machine.memory := by
  induction h with
  | here => exact .nil _
  | move hmove _ ih => exact hmove.paints.append ih

/-- A move that leaves the memory alone. -/
theorem quiet (hmove : Moves host plan env linked x y) (hquiet : x.strokes env = [])
    (hrest : Works host plan env linked y strokes z) : Works host plan env linked x strokes z := by
  have h := Works.move hmove hrest
  rwa [hquiet] at h

/-- An instruction that writes. -/
theorem write {m : Guest.Machine} {i : Guest.Instr} {rest : Guest.Code} {w : Guest.Write}
    {trace : Trace} {s : σ} (hcode : m.code = i :: rest)
    (hwrite : Guest.write? m.memory i m.operands = some w)
    (hrest : Works host plan env linked ⟨.next { m with
      code := rest, meter := m.meter.spend i.cost, operands := w.rest,
      memory := Bytes.overlay m.memory w.address w.data }, trace, s⟩ strokes z) :
    Works host plan env linked ⟨.next m, trace, s⟩ (.write w.address w.data :: strokes) z := by
  rw [← Guest.step_of_write hcode hwrite] at hrest
  have h := Works.move (.inside m trace s) hrest
  change Works _ _ _ _ _ (m.strokes env ++ strokes) _ at h
  rwa [Guest.Machine.strokes_of_write hcode hwrite] at h

theorem runs (h : Works host plan env linked x strokes y)
    (hstops : Stops host plan linked y stage t) : Runs host plan env linked x stage t := by
  induction h with
  | here => exact ⟨_, .refl, hstops⟩
  | move hmove _ ih =>
    obtain ⟨z, hmoves, hstops⟩ := ih hstops
    exact ⟨z, .head hmove hmoves, hstops⟩

/-- A guest makes no patches. -/
theorem patches (h : Works host plan env linked x strokes y) : patchesOf strokes = [] := by
  induction h with
  | here => rfl
  | move _ _ ih => rw [patchesOf_append, Moment.strokes_patches, ih, List.append_nil]

end Works

theorem Runs.works (h : Runs host plan env linked x stage t) :
    ∃ strokes y, Works host plan env linked x strokes y ∧ Stops host plan linked y stage t := by
  obtain ⟨y, hmoves, hstops⟩ := h
  induction hmoves using Relation.ReflTransGen.head_induction_on with
  | refl => exact ⟨[], y, .here y, hstops⟩
  | head hmove _ ih =>
    obtain ⟨strokes, z, hworks, hstops⟩ := ih
    exact ⟨_, z, .move hmove hworks, hstops⟩

end

/-! ## Memories of executions -/

section

variable {σ : Type} (host : Host σ) (config : TracerConfig) (plan : Plan)

/-- A fresh instance is ready, and this is what its start function did to its
memory. -/
inductive Starts (linked : List Linked) (s : σ) :
    List Stroke → Guest.Machine → Trace → σ → Prop where
  | without {machine : Guest.Machine} (hfilled : plan.filled? config = some machine)
      (hnone : plan.module.start = none) : Starts linked s [] machine {} s
  | returned {machine : Guest.Machine} {f : Nat} {strokes : List Stroke} {x : Moment σ}
      {stage : Stage} {t : σ} (hfilled : plan.filled? config = some machine)
      (hstart : plan.module.start = some f)
      (hworks : Works host plan (plan.module.env config) linked
        ⟨Guest.enter (plan.module.env config) f machine, {}, s⟩ strokes x)
      (hstops : Stops host plan linked x stage t) (hreturned : stage.why = .returned) :
      Starts linked s strokes stage.machine stage.trace t

/-- The memory of a fresh instance, as the host sees it, and how it came about. -/
inductive Begun (s : σ) : List Stroke → ByteArray → σ → Prop where
  | hidden {linked : List Linked} {strokes : List Stroke} {machine : Guest.Machine}
      {trace : Trace} {t : σ} (hlink : link config plan.bindings plan.module = .ok linked)
      (hstarts : Starts host config plan linked s strokes machine trace t)
      (hhidden : plan.module.showsMemory = false) : Begun s [] .empty t
  | shown {linked : List Linked} {strokes : List Stroke} {machine : Guest.Machine}
      {trace : Trace} {t : σ} (hlink : link config plan.bindings plan.module = .ok linked)
      (hstarts : Starts host config plan linked s strokes machine trace t)
      (hshows : plan.module.showsMemory = true) : Begun s strokes machine.memory t

/-- The memory that an execution ends with, and how it came about: what the
start function did, the patches of the plan, and what the entry export did. -/
inductive Ended (s : σ) : List Stroke → ByteArray → σ → Prop where
  | intro {linked : List Linked} {strokes strokes' : List Stroke} {machine : Guest.Machine}
      {trace : Trace} {ready : Guest.Machine × Trace} {f : Nat} {x : Moment σ} {stage : Stage}
      {t u : σ} (hlink : link config plan.bindings plan.module = .ok linked)
      (hstarts : Starts host config plan linked s strokes machine trace t)
      (hshows : plan.module.showsMemory = true)
      (hready : prepareMemory config plan machine trace = .ok ready)
      (hentry : plan.module.entry? config = some f)
      (hworks : Works host plan (plan.module.env config) linked
        ⟨Guest.enter (plan.module.env config) f ready.1, ready.2, t⟩ strokes' x)
      (hstops : Stops host plan linked x stage u) :
      Ended s (strokes ++ (plan.patches.map .patch ++ strokes')) stage.machine.memory u

end

section

variable {σ : Type} {host : Host σ} {config : TracerConfig} {plan : Plan} {linked : List Linked}
  {s t u : σ} {strokes : List Stroke} {machine : Guest.Machine} {trace : Trace} {memory : ByteArray}

theorem Begins.starts (h : Begins host config plan linked s machine trace t) :
    ∃ strokes, Starts host config plan linked s strokes machine trace t := by
  cases h with
  | without hfilled hnone => exact ⟨[], .without hfilled hnone⟩
  | returned hfilled hstart hrun hreturned =>
    obtain ⟨strokes, x, hworks, hstops⟩ := hrun.works
    exact ⟨strokes, .returned hfilled hstart hworks hstops hreturned⟩

theorem instantiate_starts {budget : Nat} {stage : Stage}
    (h : instantiate budget host config plan linked s = some (stage, t))
    (hreturned : stage.why = .returned) :
    ∃ strokes, Starts host config plan linked s strokes stage.machine stage.trace t := by
  rcases instantiate_cases h with ⟨_, hbegins⟩ | ⟨hstopped, _⟩
  · exact hbegins.starts
  · exact absurd hreturned hstopped

theorem carryOut_ended {budget : Nat} {payload : ByteArray}
    (h : (carryOut budget host config plan).run s = some (.ok { payload, memory := some memory }, u)) :
    ∃ strokes, Ended host config plan s strokes memory u := by
  generalize hr : (Except.ok { payload, memory := some memory } : Except EngineError Execution) = r at h
  cases carryOut_eq_some_iff.1 h with
  | unlinked | faultedEarly | unready | noEntry | faulted | stoppedEarly => cases hr
  | finished hlink hstart hreturned hready hentry hrun =>
    rw [Except.ok.injEq, Execution.mk.injEq] at hr
    obtain ⟨hshows, hmemory⟩ := Option.ite_none_right_eq_some.1 hr.2.symm
    cases hmemory
    obtain ⟨strokes, hstarts⟩ := instantiate_starts hstart hreturned
    obtain ⟨strokes', x, hworks, hstops⟩ := (runGuest_runs hrun).works
    exact ⟨_, .intro hlink hstarts hshows hready hentry hworks hstops⟩

theorem initialMemory_begun {budget : Nat}
    (h : (initialMemory budget host config plan).run s = some (.ok memory, u)) :
    ∃ strokes, Begun host config plan s strokes memory u := by
  rcases initialMemory_eq_some h with ⟨_, _, ⟨⟩, _⟩ |
    ⟨linked, stage, hlink, hstart, ⟨_, _, ⟨⟩⟩ | ⟨_, _, ⟨⟩⟩ | ⟨hreturned, hmemory⟩⟩
  cases hmemory
  obtain ⟨strokes, hstarts⟩ := instantiate_starts hstart hreturned
  split
  case isTrue hshows => exact ⟨strokes, .shown hlink hstarts hshows⟩
  case isFalse hshows => exact ⟨[], .hidden hlink hstarts (Bool.eq_false_iff.2 hshows)⟩

end

/-! ## Portraits -/

/-- The memory of a fresh instance before any code has run, as the host sees it. -/
def Guest.Module.Blank (m : Guest.Module) (config : TracerConfig) (memory : ByteArray) : Prop :=
  if m.showsMemory then placeSegments (m.machine config).memory m.segments = some memory
  else memory = .empty

/-- The memory comes from a fresh instance of this module, by these strokes. -/
def Portrait (config : TracerConfig) (m : Guest.Module) (strokes : List Stroke)
    (memory : ByteArray) : Prop :=
  ∃ base, m.Blank config base ∧ Paints base strokes memory

section

variable {σ : Type} {host : Host σ} {config : TracerConfig} {plan : Plan} {linked : List Linked}
  {s t : σ} {strokes : List Stroke} {machine : Guest.Machine} {trace : Trace}
  {memory patched : ByteArray} {m : Guest.Module}

/-- A further patch is a further stroke. -/
theorem Portrait.record {p : Patch} (h : Portrait config m strokes memory)
    (hpatch : p.applyTo memory = .ok patched) :
    Portrait config m (strokes ++ [.patch p]) patched := by
  obtain ⟨base, hblank, hpaints⟩ := h
  exact ⟨base, hblank, hpaints.append (.one (.patch hpatch))⟩

theorem size_placeSegments {segments : List Guest.Segment} {memory filled : ByteArray}
    (h : placeSegments memory segments = some filled) : filled.size = memory.size := by
  induction segments generalizing memory with
  | nil =>
    cases h
    rfl
  | cons segment segments ih =>
    obtain ⟨hfits, h⟩ := Option.ite_none_right_eq_some.1 h
    rw [ih h, Bytes.size_overlay (of_decide_eq_true hfits)]

/-- A memory that the host can see has all the pages it was declared with. -/
theorem Portrait.size_le (h : Portrait config m strokes memory) (hshows : m.showsMemory) :
    (m.machine config).memory.size ≤ memory.size := by
  obtain ⟨base, hblank, hpaints⟩ := h
  rw [Guest.Module.Blank, if_pos hshows] at hblank
  rw [← size_placeSegments hblank]
  exact hpaints.size_le

theorem Starts.portrait (h : Starts host config plan linked s strokes machine trace t)
    (hshows : plan.module.showsMemory) :
    Portrait config plan.module strokes machine.memory ∧ patchesOf strokes = [] := by
  have hblank : ∀ {fresh}, plan.filled? config = some fresh →
      plan.module.Blank config fresh.memory := by
    intro fresh hfilled
    obtain ⟨memory, hfill, rfl⟩ := placeSegments_of_filled hfilled
    rwa [Guest.Module.Blank, if_pos hshows]
  cases h with
  | without hfilled => exact ⟨⟨_, hblank hfilled, .nil _⟩, rfl⟩
  | returned hfilled _ hworks hstops =>
    have hpaints := hworks.paints
    rw [hstops.memory, Guest.enter_memory] at hpaints
    exact ⟨⟨_, hblank hfilled, hpaints⟩, hworks.patches⟩

/-- The memory of a fresh instance shows no patches. -/
theorem Begun.portrait (h : Begun host config plan s strokes memory t) :
    Portrait config plan.module strokes memory ∧ patchesOf strokes = [] := by
  cases h with
  | hidden _ _ hhidden => exact ⟨⟨.empty, by rw [Guest.Module.Blank, hhidden]; rfl, .nil _⟩, rfl⟩
  | shown _ hstarts hshows => exact hstarts.portrait hshows

/-- The memory that an execution ends with shows the patches of its plan. -/
theorem Ended.portrait (h : Ended host config plan s strokes memory t) :
    Portrait config plan.module strokes memory ∧ patchesOf strokes = plan.patches := by
  cases h with
  | @intro _ _ _ _ _ ready _ _ _ _ _ _ hstarts hshows hready _ hworks hstops =>
    obtain ⟨⟨base, hblank, hpaints⟩, hnone⟩ := hstarts.portrait hshows
    obtain ⟨machine, trace⟩ := ready
    obtain ⟨hreplays, rfl, -, -⟩ := prepareMemory_eq_ok hready
    rw [Guest.Module.Replays, if_pos hshows] at hreplays
    have hpaints' := hworks.paints
    rw [hstops.memory, Guest.enter_memory] at hpaints'
    have hpatched := (Paints.patches hreplays).append hpaints'
    refine ⟨⟨base, hblank, hpaints.append hpatched⟩, ?_⟩
    rw [patchesOf_append, patchesOf_append, hnone, hworks.patches, patchesOf_patches,
      List.nil_append, List.append_nil]

end

end EngineHost
