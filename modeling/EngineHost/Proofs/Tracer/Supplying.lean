import EngineHost.Proofs.Tracer.Linking
import EngineHost.Proofs.Tracer.Slots
import Mathlib.Data.List.Induction
/-
When the imports of an accepted module can be linked.  Each name has to be
supplied, by a binding or as one of the two halting imports, and it has to be
asked for once only: asking for it again is refused, although the definition is
there.  Where linking fails, the reason names the first import that is at fault.
-/
namespace EngineHost

section

variable (config : TracerConfig) (bindings : Bindings)

/-- There is something for an import of this name. -/
def Supplied (name : String) : Prop :=
  (∃ b, bindings[name]? = some b) ∨ name = config.stopImport ∨ name = config.revertImport

/-- An import is declared with the type that the binding of its name has. -/
def Guest.Import.Fits (i : Guest.Import) : Prop :=
  ∀ b, bindings[i.name]? = some b → i.kind = .func b.shape.funcType

/-- The definition of an import.  A binding comes before the halting imports,
and stopping before reverting. -/
inductive Linked.Meets (i : Guest.Import) : Linked → Prop where
  | bound {b : Binding} (hb : bindings[i.name]? = some b)
      (hkind : i.kind = .func b.shape.funcType) :
      Meets i { name := i.name, type := b.shape.funcType, definition := .bound b }
  | stopping {type : Guest.FuncType} (hnone : bindings[i.name]? = none)
      (hstop : i.name = config.stopImport) (hkind : i.kind = .func type) :
      Meets i { name := i.name, type, definition := .halting .stop }
  | reverting {type : Guest.FuncType} (hnone : bindings[i.name]? = none)
      (hnot : i.name ≠ config.stopImport) (hrevert : i.name = config.revertImport)
      (hkind : i.kind = .func type) :
      Meets i { name := i.name, type, definition := .halting .revert }

/-- Every name is supplied, and no name comes twice. -/
structure Definable (imports : List Guest.Import) : Prop where
  supplied : ∀ i ∈ imports, Supplied config bindings i.name
  distinct : (imports.map (·.name)).Nodup

/-- The smallest memory of this type is within the limit. -/
def Roomy (type : Guest.MemoryType) : Prop :=
  type.min * Guest.pageSize ≤ config.maxMemoryBytes

structure Linkable (m : Guest.Module) : Prop where
  definable : Definable config bindings m.imports
  fitting : ∀ i ∈ m.imports, i.Fits bindings
  roomy : ∀ type ∈ m.memories, Roomy config type

/-- Why an accepted module cannot be linked, and what is said then. -/
inductive LinkFault (m : Guest.Module) : String → Prop where
  | unsupplied {before after : List Guest.Import} {i : Guest.Import}
      (himports : m.imports = before ++ i :: after)
      (hbefore : Definable config bindings before)
      (hnot : ¬ Supplied config bindings i.name) :
      LinkFault m ("import '" ++ qualifiedName i ++ "' has no registered host function")
  | repeated {before after : List Guest.Import} {i : Guest.Import}
      (himports : m.imports = before ++ i :: after)
      (hbefore : Definable config bindings before) (hagain : i.name ∈ before.map (·.name)) :
      LinkFault m ("bind '" ++ i.name ++ "': import of `" ++ config.importSpace ++ "::" ++
        i.name ++ "` defined twice")
  | mistyped {before after : List Guest.Import} {i : Guest.Import}
      (hdefinable : Definable config bindings m.imports)
      (himports : m.imports = before ++ i :: after)
      (hbefore : ∀ j ∈ before, j.Fits bindings) (hnot : ¬ i.Fits bindings) :
      LinkFault m ("instantiate: incompatible import type for `" ++ qualifiedName i ++ "`")
  | oversized {before after : List Guest.MemoryType} {type : Guest.MemoryType}
      (hdefinable : Definable config bindings m.imports)
      (hfitting : ∀ i ∈ m.imports, i.Fits bindings)
      (hmemories : m.memories = before ++ type :: after)
      (hbefore : ∀ type ∈ before, Roomy config type) (hnot : ¬ Roomy config type) :
      LinkFault m ("instantiate: memory minimum size of " ++ toString type.min ++
        " pages exceeds memory limits")

end

namespace Guest.Import

variable {bindings : Bindings} {i : Guest.Import}

instance : Decidable (i.Fits bindings) :=
  match hb : bindings[i.name]? with
  | none => isTrue fun _ hb' => nomatch hb.symm.trans hb'
  | some b => decidable_of_iff (i.kind = .func b.shape.funcType)
      ⟨fun hkind _ hb' => Option.some.inj (hb.symm.trans hb') ▸ hkind, fun hfits => hfits b hb⟩

/-- The comparison of types, by the binding and not by the definition made of it. -/
def checkFit (bindings : Bindings) (i : Guest.Import) : Except EngineError Unit :=
  if i.Fits bindings then .ok ()
  else .error (.link ("instantiate: incompatible import type for `" ++ qualifiedName i ++ "`"))

theorem checkFit_eq_ok_iff : i.checkFit bindings = .ok () ↔ i.Fits bindings := by
  unfold checkFit
  split <;> simp [*]

theorem checkFit_eq_error_iff {e : EngineError} :
    i.checkFit bindings = .error e ↔ ¬ i.Fits bindings ∧
      e = .link ("instantiate: incompatible import type for `" ++ qualifiedName i ++ "`") := by
  unfold checkFit
  split <;> simp [*, eq_comm]

end Guest.Import

/-- The check of one memory against the limit. -/
def checkRoom (config : TracerConfig) (type : Guest.MemoryType) : Except EngineError Unit :=
  if type.min * Guest.pageSize ≤ config.maxMemoryBytes then .ok ()
  else
    .error (.link ("instantiate: memory minimum size of " ++ toString type.min ++
      " pages exceeds memory limits"))

theorem checkRoom_eq_ok_iff {config : TracerConfig} {type : Guest.MemoryType} :
    checkRoom config type = .ok () ↔ Roomy config type := by
  unfold checkRoom Roomy
  split <;> simp [*]

theorem checkRoom_eq_error_iff {config : TracerConfig} {type : Guest.MemoryType}
    {e : EngineError} :
    checkRoom config type = .error e ↔ ¬ Roomy config type ∧
      e = .link ("instantiate: memory minimum size of " ++ toString type.min ++
        " pages exceeds memory limits") := by
  unfold checkRoom Roomy
  split <;> simp [*, eq_comm]

/-! ## One import -/

section

variable {config : TracerConfig} {bindings : Bindings} {defined out : List Linked}
  {i : Guest.Import}

theorem haltOf?_eq_none_iff {name : String} :
    haltOf? config name = none ↔ name ≠ config.stopImport ∧ name ≠ config.revertImport := by
  unfold haltOf?
  split
  case isTrue h => simp [h]
  case isFalse h => simp [h]

theorem define_eq_ok_iff {new : Linked} :
    define config defined new = .ok out ↔
      new.name ∉ defined.map (·.name) ∧ out = defined ++ [new] := by
  unfold define
  split
  case isTrue h =>
    have hmem : new.name ∈ defined.map (·.name) := by simpa using h
    exact ⟨nofun, fun hnew => absurd hmem hnew.1⟩
  case isFalse h =>
    have hnot : new.name ∉ defined.map (·.name) := by simpa using h
    rw [Except.ok.injEq, eq_comm, and_iff_right hnot]

theorem define_eq_error_iff {new : Linked} {e : EngineError} :
    define config defined new = .error e ↔ new.name ∈ defined.map (·.name) ∧
      e = .link ("bind '" ++ new.name ++ "': import of `" ++ config.importSpace ++ "::" ++
        new.name ++ "` defined twice") := by
  unfold define
  split
  case isTrue h =>
    have hmem : new.name ∈ defined.map (·.name) := by simpa using h
    rw [Except.error.injEq, eq_comm, and_iff_right hmem]
  case isFalse h =>
    have hnot : new.name ∉ defined.map (·.name) := by simpa using h
    exact ⟨nofun, fun hnew => absurd hnew.1 hnot⟩

/-- The definition that is made for an import, before types are compared. -/
inductive Linked.MadeFor (config : TracerConfig) (bindings : Bindings) (i : Guest.Import) :
    Linked → Prop where
  | bound {b : Binding} (hb : bindings[i.name]? = some b) :
      MadeFor config bindings i
        { name := i.name, type := b.shape.funcType, definition := .bound b }
  | halting {type : Guest.FuncType} {halt : Halt} (hnone : bindings[i.name]? = none)
      (hhalt : haltOf? config i.name = some halt) (hkind : i.kind = .func type) :
      MadeFor config bindings i { name := i.name, type, definition := .halting halt }

namespace Linked.MadeFor

variable {l : Linked}

theorem name_eq (h : l.MadeFor config bindings i) : l.name = i.name := by
  cases h <;> rfl

/-- Whether the types agree hangs on the import alone. -/
theorem check_eq (h : l.MadeFor config bindings i) : checkImport i l = i.checkFit bindings := by
  have hfits : i.kind = .func l.type ↔ i.Fits bindings := by
    cases h with
    | bound hb =>
      refine ⟨fun hkind b hb' => ?_, fun hfits => hfits _ hb⟩
      cases hb.symm.trans hb'
      exact hkind
    | halting hnone _ hkind => exact ⟨fun _ b hb => (nomatch hnone.symm.trans hb), fun _ => hkind⟩
  unfold checkImport Guest.Import.checkFit
  by_cases hkind : i.kind = .func l.type
  · rw [if_pos hkind, if_pos (hfits.1 hkind)]
  · rw [if_neg hkind, if_neg fun h => hkind (hfits.2 h)]

theorem meets (h : l.MadeFor config bindings i) (hfits : i.Fits bindings) :
    l.Meets config bindings i := by
  cases h with
  | bound hb => exact .bound hb (hfits _ hb)
  | halting hnone hhalt hkind =>
    unfold haltOf? at hhalt
    split at hhalt
    case isTrue hstop =>
      cases hhalt
      exact .stopping hnone hstop hkind
    case isFalse hnot =>
      split at hhalt
      case isTrue hrevert =>
        cases hhalt
        exact .reverting hnone hnot hrevert hkind
      case isFalse => cases hhalt

end Linked.MadeFor

theorem exists_madeFor (hfunc : ∃ type, i.kind = .func type)
    (hsupplied : Supplied config bindings i.name) :
    ∃ l : Linked, l.MadeFor config bindings i := by
  cases hb : bindings[i.name]? with
  | some b => exact ⟨_, .bound hb⟩
  | none =>
    obtain ⟨type, hkind⟩ := hfunc
    cases hhalt : haltOf? config i.name with
    | some halt => exact ⟨_, .halting hb hhalt hkind⟩
    | none =>
      obtain ⟨hstop, hrevert⟩ := haltOf?_eq_none_iff.1 hhalt
      rcases hsupplied with ⟨b, hb'⟩ | h | h
      · cases hb.symm.trans hb'
      · exact absurd h hstop
      · exact absurd h hrevert

theorem bindImport_of_madeFor {l : Linked} (h : l.MadeFor config bindings i) :
    bindImport config bindings defined i = define config defined l := by
  unfold bindImport
  cases h with
  | bound hb => rw [hb]
  | halting hnone hhalt hkind => rw [hnone, hhalt, hkind]

theorem bindImport_of_unsupplied (hnot : ¬ Supplied config bindings i.name) :
    bindImport config bindings defined i =
      .error (.link ("import '" ++ qualifiedName i ++ "' has no registered host function")) := by
  unfold bindImport
  split
  case h_1 b hb => exact absurd (.inl ⟨b, hb⟩) hnot
  case h_2 =>
    rw [haltOf?_eq_none_iff.2 ⟨fun h => hnot (.inr (.inl h)), fun h => hnot (.inr (.inr h))⟩]

end

/-! ## All imports -/

section

variable {config : TracerConfig} {bindings : Bindings} {defined out : List Linked}
  {imports : List Guest.Import} {m : Guest.Module}

theorem bindImports_concat {i : Guest.Import} :
    bindImports config bindings (imports ++ [i]) =
      bindImports config bindings imports >>= fun defined => bindImport config bindings defined i := by
  unfold bindImports
  rw [List.foldlM_append]
  refine congrArg (_ >>= ·) (funext fun defined => ?_)
  rw [List.foldlM_cons]
  exact bind_pure _

theorem Definable.concat_iff {i : Guest.Import} :
    Definable config bindings (imports ++ [i]) ↔ Definable config bindings imports ∧
      Supplied config bindings i.name ∧ i.name ∉ imports.map (·.name) := by
  constructor
  · intro h
    have hdistinct := h.distinct
    rw [List.map_append, List.map_singleton, List.nodup_append] at hdistinct
    refine ⟨⟨fun j hj => h.supplied j (List.mem_append_left _ hj), hdistinct.1⟩,
      h.supplied i (List.mem_append_right _ (List.mem_singleton_self i)), fun hagain => ?_⟩
    exact hdistinct.2.2 _ hagain _ (List.mem_singleton_self _) rfl
  · intro h
    obtain ⟨hdefinable, hsupplied, hnew⟩ := h
    constructor
    · intro j hj
      rcases List.mem_append.1 hj with hj | hj
      · exact hdefinable.supplied j hj
      · rw [List.mem_singleton.1 hj]
        exact hsupplied
    · rw [List.map_append, List.map_singleton, List.nodup_append]
      refine ⟨hdefinable.distinct, List.pairwise_singleton _ _, fun name hname name' hname' heq => ?_⟩
      rw [List.mem_singleton.1 hname'] at heq
      exact hnew (heq ▸ hname)

theorem names_of_madeFor (h : List.Forall₂ (fun i l => l.MadeFor config bindings i) imports defined) :
    defined.map (·.name) = imports.map (·.name) := by
  induction h with
  | nil => rfl
  | cons hl _ ih => rw [List.map_cons, List.map_cons, ih, hl.name_eq]

theorem forall₂_concat_left_iff {α β : Type} {R : α → β → Prop} {xs : List α} {x : α}
    {ys : List β} : List.Forall₂ R (xs ++ [x]) ys ↔
      ∃ ys' y, List.Forall₂ R xs ys' ∧ R x y ∧ ys = ys' ++ [y] := by
  rw [← List.forall₂_reverse_iff, List.reverse_append, List.reverse_singleton,
    List.singleton_append, List.forall₂_cons_left_iff]
  constructor
  · intro h
    obtain ⟨y, ys', hy, hys, hreverse⟩ := h
    refine ⟨ys'.reverse, y, ?_, hy, ?_⟩
    · rw [← List.forall₂_reverse_iff, List.reverse_reverse]
      exact hys
    · rw [← List.reverse_cons, ← hreverse, List.reverse_reverse]
  · intro h
    obtain ⟨ys', y, hys, hy, rfl⟩ := h
    refine ⟨y, ys'.reverse, hy, List.forall₂_reverse_iff.2 hys, ?_⟩
    rw [List.reverse_append, List.reverse_singleton, List.singleton_append]

/-- The definitions are made in the order of the imports, one for each. -/
theorem bindImports_eq_ok_iff (hfuncs : ∀ i ∈ imports, ∃ type, i.kind = .func type) :
    bindImports config bindings imports = .ok defined ↔
      Definable config bindings imports ∧
        List.Forall₂ (fun i l => l.MadeFor config bindings i) imports defined := by
  induction imports using List.reverseRecOn generalizing defined with
  | nil =>
    have hnil : Definable config bindings [] := ⟨nofun, List.nodup_nil⟩
    rw [and_iff_right hnil, List.forall₂_nil_left_iff]
    constructor
    · intro heq
      cases heq
      rfl
    · intro heq
      subst heq
      rfl
  | append_singleton imports i ih =>
    rw [List.forall_mem_append, List.forall_mem_singleton] at hfuncs
    rw [bindImports_concat, bind_eq_ok_iff, Definable.concat_iff, forall₂_concat_left_iff]
    constructor
    · intro h
      obtain ⟨earlier, hearlier, h⟩ := h
      obtain ⟨hdefinable, hmade⟩ := (ih hfuncs.1).1 hearlier
      by_cases hsupplied : Supplied config bindings i.name
      · obtain ⟨l, hl⟩ := exists_madeFor hfuncs.2 hsupplied
        rw [bindImport_of_madeFor hl, define_eq_ok_iff, hl.name_eq, names_of_madeFor hmade] at h
        exact ⟨⟨hdefinable, hsupplied, h.1⟩, earlier, l, hmade, hl, h.2⟩
      · rw [bindImport_of_unsupplied hsupplied] at h
        cases h
    · intro h
      obtain ⟨⟨hdefinable, -, hnew⟩, earlier, l, hmade, hl, rfl⟩ := h
      refine ⟨earlier, (ih hfuncs.1).2 ⟨hdefinable, hmade⟩, ?_⟩
      rw [bindImport_of_madeFor hl, define_eq_ok_iff, hl.name_eq, names_of_madeFor hmade]
      exact ⟨hnew, rfl⟩

theorem exists_forall₂ {α β : Type} {R : α → β → Prop} {xs : List α}
    (h : ∀ x ∈ xs, ∃ y, R x y) : ∃ ys, List.Forall₂ R xs ys := by
  induction xs with
  | nil => exact ⟨[], .nil⟩
  | cons x xs ih =>
    rw [List.forall_mem_cons] at h
    obtain ⟨y, hy⟩ := h.1
    obtain ⟨ys, hys⟩ := ih h.2
    exact ⟨y :: ys, .cons hy hys⟩

theorem Definable.bindImports_eq_ok (h : Definable config bindings imports)
    (hfuncs : ∀ i ∈ imports, ∃ type, i.kind = .func type) :
    ∃ defined, bindImports config bindings imports = .ok defined := by
  obtain ⟨defined, hmade⟩ := exists_forall₂ fun i hi => exists_madeFor (hfuncs i hi) (h.supplied i hi)
  exact ⟨defined, (bindImports_eq_ok_iff hfuncs).2 ⟨h, hmade⟩⟩

/-- Defining goes wrong at the first import that is unsupplied or comes again. -/
theorem bindImports_eq_error_iff (hfuncs : ∀ i ∈ imports, ∃ type, i.kind = .func type)
    {e : EngineError} :
    bindImports config bindings imports = .error e ↔ ∃ before i after,
      imports = before ++ i :: after ∧ Definable config bindings before ∧
        ((¬ Supplied config bindings i.name ∧
            e = .link ("import '" ++ qualifiedName i ++ "' has no registered host function")) ∨
          i.name ∈ before.map (·.name) ∧
            e = .link ("bind '" ++ i.name ++ "': import of `" ++ config.importSpace ++ "::" ++
              i.name ++ "` defined twice")) := by
  unfold bindImports
  rw [foldlM_eq_error_iff]
  constructor
  · intro h
    obtain ⟨before, i, after, earlier, rfl, hearlier, h⟩ := h
    rw [List.forall_mem_append, List.forall_mem_cons] at hfuncs
    obtain ⟨hdefinable, hmade⟩ := (bindImports_eq_ok_iff hfuncs.1).1 hearlier
    refine ⟨before, i, after, rfl, hdefinable, ?_⟩
    by_cases hsupplied : Supplied config bindings i.name
    · obtain ⟨l, hl⟩ := exists_madeFor hfuncs.2.1 hsupplied
      rw [bindImport_of_madeFor hl, define_eq_error_iff, hl.name_eq, names_of_madeFor hmade] at h
      exact .inr h
    · rw [bindImport_of_unsupplied hsupplied] at h
      cases h
      exact .inl ⟨hsupplied, rfl⟩
  · intro h
    obtain ⟨before, i, after, rfl, hdefinable, h⟩ := h
    rw [List.forall_mem_append, List.forall_mem_cons] at hfuncs
    obtain ⟨earlier, hearlier⟩ := hdefinable.bindImports_eq_ok hfuncs.1
    refine ⟨before, i, after, earlier, rfl, hearlier, ?_⟩
    rcases h with ⟨hnot, rfl⟩ | ⟨hagain, rfl⟩
    · exact bindImport_of_unsupplied hnot
    · -- The name is supplied, since it was defined before.
      obtain ⟨j, hj, hname⟩ := List.mem_map.1 hagain
      obtain ⟨l, hl⟩ := exists_madeFor hfuncs.2.1 (hname ▸ hdefinable.supplied j hj)
      have hmade := ((bindImports_eq_ok_iff hfuncs.1).1 hearlier).2
      rw [bindImport_of_madeFor hl, define_eq_error_iff, hl.name_eq, names_of_madeFor hmade]
      exact ⟨hagain, rfl⟩

/-- What an accepted module imports are functions of the import space. -/
theorem imports_of_approve (h : approve config m = .ok ()) :
    ∀ i ∈ m.imports, i.space = config.importSpace ∧ ∃ type, i.kind = .func type := by
  intro i hi
  obtain ⟨_, _, himports⟩ := bind_eq_ok_iff.1 h
  have hi := forM_eq_ok_iff.1 himports i hi
  unfold approveImport at hi
  split at hi
  case isTrue => cases hi
  case isFalse =>
    split at hi
    case isTrue => cases hi
    case isFalse hspace =>
      split at hi
      case isTrue => cases hi
      case isFalse hfunc =>
        refine ⟨not_not.1 hspace, ?_⟩
        cases hkind : i.kind with
        | func type => exact ⟨type, rfl⟩
        | _ =>
          rw [hkind] at hfunc
          exact absurd rfl hfunc

theorem find?_name_of_mem {l : Linked} (hdistinct : (defined.map (·.name)).Nodup)
    (hl : l ∈ defined) : defined.find? (·.name = l.name) = some l := by
  induction defined with
  | nil => cases hl
  | cons first rest ih =>
    rw [List.map_cons, List.nodup_cons] at hdistinct
    rcases List.mem_cons.1 hl with rfl | hl
    · exact List.find?_cons_of_pos (decide_eq_true rfl)
    · have hne : first.name ≠ l.name := fun heq =>
        hdistinct.1 (heq ▸ List.mem_map_of_mem (f := Linked.name) hl)
      rw [List.find?_cons_of_neg (by simpa using hne)]
      exact ih hdistinct.2 hl

/-- Every import finds the definition that was made for it. -/
theorem resolveImports_eq_ok (hspace : ∀ i ∈ imports, i.space = config.importSpace)
    (hdistinct : (imports.map (·.name)).Nodup)
    (hmade : List.Forall₂ (fun i l => l.MadeFor config bindings i) imports defined) :
    imports.mapM (resolveImport config defined) = .ok defined := by
  obtain ⟨hlength, hzip⟩ := List.forall₂_iff_zip.1 hmade
  refine mapM_eq_ok_iff.2 (List.forall₂_iff_zip.2 ⟨hlength, fun {i l} hmem => ?_⟩)
  obtain ⟨hi, hl⟩ := List.of_mem_zip hmem
  rw [← names_of_madeFor hmade] at hdistinct
  unfold resolveImport
  rw [if_pos (hspace i hi), ← (hzip hmem).name_eq, find?_name_of_mem hdistinct hl]

/-- Once everything is defined, what is left is comparing types and looking at
the memory. -/
theorem link_of_bindImports (happrove : approve config m = .ok ())
    (hbound : bindImports config bindings m.imports = .ok defined) :
    link config bindings m =
      (m.imports.zip defined).forM (fun (i, l) => checkImport i l) >>= fun _ =>
        checkMemory config m >>= fun _ => .ok defined := by
  have himports := imports_of_approve happrove
  obtain ⟨hdefinable, hmade⟩ := (bindImports_eq_ok_iff fun i hi => (himports i hi).2).1 hbound
  unfold link
  rw [hbound]
  show m.imports.mapM (resolveImport config defined) >>= _ = _
  rw [resolveImports_eq_ok (fun i hi => (himports i hi).1) hdefinable.distinct hmade]
  rfl

theorem checkImports_eq
    (hmade : List.Forall₂ (fun i l => l.MadeFor config bindings i) imports defined) :
    (imports.zip defined).forM (fun (i, l) => checkImport i l) =
      imports.forM (·.checkFit bindings) := by
  induction hmade with
  | nil => rfl
  | @cons i l _ _ hl _ ih =>
    show (checkImport i l >>= fun _ => List.forM _ _) = (i.checkFit bindings >>= fun _ => _)
    rw [hl.check_eq]
    exact congrArg (_ >>= ·) (funext fun _ => ih)

/-- What is left of linking once every import has its definition. -/
theorem link_of_bindImports_checks (happrove : approve config m = .ok ())
    (hbound : bindImports config bindings m.imports = .ok defined) :
    link config bindings m = m.imports.forM (·.checkFit bindings) >>= fun _ =>
      m.memories.forM (checkRoom config) >>= fun _ => .ok defined := by
  have hfuncs := fun i hi => (imports_of_approve happrove i hi).2
  rw [link_of_bindImports happrove hbound,
    checkImports_eq ((bindImports_eq_ok_iff hfuncs).1 hbound).2]
  rfl

theorem link_of_bindImports_error {e : EngineError}
    (h : bindImports config bindings m.imports = .error e) :
    link config bindings m = .error e := by
  rw [link, h]
  rfl

section

variable (happrove : approve config m = .ok ())

include happrove

theorem Linkable.links (h : Linkable config bindings m) :
    ∃ linked, link config bindings m = .ok linked ∧
      List.Forall₂ (fun i l => l.Meets config bindings i) m.imports linked := by
  have hfuncs := fun i hi => (imports_of_approve happrove i hi).2
  obtain ⟨defined, hbound⟩ := h.definable.bindImports_eq_ok hfuncs
  have hfits : m.imports.forM (·.checkFit bindings) = .ok () :=
    forM_eq_ok_iff.2 fun i hi => Guest.Import.checkFit_eq_ok_iff.2 (h.fitting i hi)
  have hroom : m.memories.forM (checkRoom config) = .ok () :=
    forM_eq_ok_iff.2 fun type htype => checkRoom_eq_ok_iff.2 (h.roomy type htype)
  refine ⟨defined, ?_, ?_⟩
  · rw [link_of_bindImports_checks happrove hbound, hfits, hroom]
    rfl
  · obtain ⟨hlength, hzip⟩ := List.forall₂_iff_zip.1 ((bindImports_eq_ok_iff hfuncs).1 hbound).2
    exact List.forall₂_iff_zip.2
      ⟨hlength, fun hmem => (hzip hmem).meets (h.fitting _ (List.of_mem_zip hmem).1)⟩

/-- Linking goes through to the end, or it stops at the first fault. -/
theorem linkable_or_linkFault :
    Linkable config bindings m ∨
      ∃ reason, link config bindings m = .error (.link reason) ∧
        LinkFault config bindings m reason := by
  have hfuncs := fun i hi => (imports_of_approve happrove i hi).2
  cases hbound : bindImports config bindings m.imports with
  | error e =>
    have hlink := link_of_bindImports_error hbound
    obtain ⟨before, i, after, himports, hbefore, hfault⟩ :=
      (bindImports_eq_error_iff hfuncs).1 hbound
    rcases hfault with ⟨hnot, rfl⟩ | ⟨hagain, rfl⟩
    · exact .inr ⟨_, hlink, .unsupplied himports hbefore hnot⟩
    · exact .inr ⟨_, hlink, .repeated himports hbefore hagain⟩
  | ok defined =>
    have hlink := link_of_bindImports_checks happrove hbound
    have hdefinable := ((bindImports_eq_ok_iff hfuncs).1 hbound).1
    cases hfits : m.imports.forM (·.checkFit bindings) with
    | error e =>
      rw [hfits] at hlink
      obtain ⟨before, i, after, himports, hbefore, hi⟩ := forM_eq_error_iff.1 hfits
      obtain ⟨hnot, rfl⟩ := Guest.Import.checkFit_eq_error_iff.1 hi
      exact .inr ⟨_, hlink, .mistyped hdefinable himports
        (fun j hj => Guest.Import.checkFit_eq_ok_iff.1 (hbefore j hj)) hnot⟩
    | ok =>
      have hfitting : ∀ i ∈ m.imports, i.Fits bindings :=
        fun i hi => Guest.Import.checkFit_eq_ok_iff.1 (forM_eq_ok_iff.1 hfits i hi)
      cases hroom : m.memories.forM (checkRoom config) with
      | error e =>
        rw [hfits, hroom] at hlink
        obtain ⟨before, type, after, hmemories, hbefore, htype⟩ := forM_eq_error_iff.1 hroom
        obtain ⟨hnot, rfl⟩ := checkRoom_eq_error_iff.1 htype
        exact .inr ⟨_, hlink, .oversized hdefinable hfitting hmemories
          (fun type htype => checkRoom_eq_ok_iff.1 (hbefore type htype)) hnot⟩
      | ok =>
        exact .inl ⟨hdefinable, hfitting,
          fun type htype => checkRoom_eq_ok_iff.1 (forM_eq_ok_iff.1 hroom type htype)⟩

theorem LinkFault.link_eq {reason : String} (h : LinkFault config bindings m reason) :
    link config bindings m = .error (.link reason) := by
  have hfuncs := fun i hi => (imports_of_approve happrove i hi).2
  cases h with
  | unsupplied himports hbefore hnot =>
    exact link_of_bindImports_error ((bindImports_eq_error_iff hfuncs).2
      ⟨_, _, _, himports, hbefore, .inl ⟨hnot, rfl⟩⟩)
  | repeated himports hbefore hagain =>
    exact link_of_bindImports_error ((bindImports_eq_error_iff hfuncs).2
      ⟨_, _, _, himports, hbefore, .inr ⟨hagain, rfl⟩⟩)
  | mistyped hdefinable himports hbefore hnot =>
    obtain ⟨defined, hbound⟩ := hdefinable.bindImports_eq_ok hfuncs
    have hfits := forM_eq_error_iff.2 ⟨_, _, _, himports,
      fun j hj => Guest.Import.checkFit_eq_ok_iff.2 (hbefore j hj),
      Guest.Import.checkFit_eq_error_iff.2 ⟨hnot, rfl⟩⟩
    rw [link_of_bindImports_checks happrove hbound, hfits]
    rfl
  | oversized hdefinable hfitting hmemories hbefore hnot =>
    obtain ⟨defined, hbound⟩ := hdefinable.bindImports_eq_ok hfuncs
    have hfits : m.imports.forM (·.checkFit bindings) = .ok () :=
      forM_eq_ok_iff.2 fun i hi => Guest.Import.checkFit_eq_ok_iff.2 (hfitting i hi)
    have hroom := forM_eq_error_iff.2 ⟨_, _, _, hmemories,
      fun type htype => checkRoom_eq_ok_iff.2 (hbefore type htype),
      checkRoom_eq_error_iff.2 ⟨hnot, rfl⟩⟩
    rw [link_of_bindImports_checks happrove hbound, hfits, hroom]
    rfl

/-- Linking fails for these reasons and for no other. -/
theorem link_eq_error_iff {e : EngineError} :
    link config bindings m = .error e ↔
      ∃ reason, e = .link reason ∧ LinkFault config bindings m reason := by
  constructor
  · intro h
    rcases linkable_or_linkFault happrove with hlinkable | ⟨reason, hlink, hfault⟩
    · obtain ⟨linked, hlink, -⟩ := hlinkable.links happrove
      cases hlink.symm.trans h
    · cases hlink.symm.trans h
      exact ⟨reason, rfl, hfault⟩
  · intro h
    obtain ⟨reason, rfl, hfault⟩ := h
    exact hfault.link_eq happrove

theorem linkable_iff :
    Linkable config bindings m ↔ ∀ reason, ¬ LinkFault config bindings m reason := by
  constructor
  · intro hlinkable reason hfault
    obtain ⟨linked, hlink, -⟩ := hlinkable.links happrove
    cases hlink.symm.trans (hfault.link_eq happrove)
  · intro hnone
    rcases linkable_or_linkFault happrove with hlinkable | ⟨reason, -, hfault⟩
    · exact hlinkable
    · exact absurd hfault (hnone reason)

end

end

end EngineHost
