import EngineHost.Proofs.Following
import EngineHost.Tracer.Linking
/-
What linking makes.  Every definition comes from a binding or is a halting
import, and the imports of a linked module are functions of the types that
their definitions have.
-/
namespace EngineHost

/-- A definition is the binding of its name, or halts because its name has no
binding. -/
inductive Linked.MadeFrom (config : TracerConfig) (bindings : Bindings) : Linked → Prop where
  | bound {name : String} {b : Binding} (hb : bindings[name]? = some b) :
      MadeFrom config bindings { name, type := b.shape.funcType, definition := .bound b }
  | halting {name : String} {type : Guest.FuncType} {halt : Halt} (hnone : bindings[name]? = none)
      (hhalt : haltOf? config name = some halt) :
      MadeFrom config bindings { name, type, definition := .halting halt }

section

variable {config : TracerConfig} {bindings : Bindings} {defined out : List Linked}

theorem define_eq_ok {new : Linked} (h : define config defined new = .ok out) :
    out = defined ++ [new] := by
  unfold define at h
  split at h
  · cases h
  · cases h
    rfl

theorem bindImport_madeFrom {i : Guest.Import} (h : ∀ l ∈ defined, l.MadeFrom config bindings)
    (hout : bindImport config bindings defined i = .ok out) :
    ∀ l ∈ out, l.MadeFrom config bindings := by
  have hnew (new : Linked) (hmade : new.MadeFrom config bindings)
      (hdefine : define config defined new = .ok out) : ∀ l ∈ out, l.MadeFrom config bindings := by
    obtain rfl := define_eq_ok hdefine
    intro l hl
    rcases List.mem_append.1 hl with hl | hl
    · exact h l hl
    · rw [List.mem_singleton.1 hl]
      exact hmade
  unfold bindImport at hout
  split at hout
  case h_1 binding hbinding => exact hnew _ (.bound hbinding) hout
  case h_2 hbinding =>
    split at hout
    case h_1 => cases hout
    case h_2 halt hhalt =>
      split at hout
      case h_1 type _ => exact hnew _ (.halting hbinding hhalt) hout
      case h_2 => cases hout

theorem bindImports_madeFrom {imports : List Guest.Import}
    (hout : bindImports config bindings imports = .ok out) :
    ∀ l ∈ out, l.MadeFrom config bindings := by
  have hfold (imports : List Guest.Import) (defined : List Linked)
      (h : ∀ l ∈ defined, l.MadeFrom config bindings)
      (hout : imports.foldlM (bindImport config bindings) defined = .ok out) :
      ∀ l ∈ out, l.MadeFrom config bindings := by
    induction imports generalizing defined with
    | nil =>
      cases hout
      exact h
    | cons i imports ih =>
      rw [List.foldlM_cons] at hout
      obtain ⟨next, hnext, hrest⟩ := bind_eq_ok_iff.1 hout
      exact ih next (bindImport_madeFrom h hnext) hrest
  exact hfold imports [] (fun _ h => nomatch h) hout

theorem resolveImport_eq_ok {i : Guest.Import} {l : Linked}
    (h : resolveImport config defined i = .ok l) : l ∈ defined ∧ l.name = i.name := by
  unfold resolveImport at h
  split at h
  case h_1 found hfound =>
    cases h
    obtain ⟨_, hfound⟩ := Option.ite_none_right_eq_some.1 hfound
    exact ⟨List.mem_of_find?_eq_some hfound, by simpa using List.find?_some hfound⟩
  case h_2 => cases h

variable {m : Guest.Module} {linked : List Linked}

/-- The definitions of a module's imports, in their order. -/
theorem link_eq_ok (h : link config bindings m = .ok linked) :
    (∀ l ∈ linked, l.MadeFrom config bindings) ∧
      List.Forall₂ (fun i l => l.name = i.name ∧ i.kind = .func l.type) m.imports linked := by
  unfold link at h
  obtain ⟨defined, hdefined, h⟩ := bind_eq_ok_iff.1 h
  obtain ⟨found, hfound, h⟩ := bind_eq_ok_iff.1 h
  obtain ⟨⟨⟩, hchecks, h⟩ := bind_eq_ok_iff.1 h
  obtain ⟨⟨⟩, _, ⟨⟩⟩ := bind_eq_ok_iff.1 h
  obtain ⟨hlength, hresolved⟩ := List.forall₂_iff_zip.1 (mapM_eq_ok_iff.1 hfound)
  have hchecked := forM_eq_ok_iff.1 hchecks
  constructor
  · intro l hl
    rw [← List.map_snd_zip (Nat.le_of_eq hlength.symm)] at hl
    obtain ⟨⟨i, l⟩, hmem, rfl⟩ := List.mem_map.1 hl
    exact bindImports_madeFrom hdefined l (resolveImport_eq_ok (hresolved hmem)).1
  · refine List.forall₂_iff_zip.2 ⟨hlength, fun {i l} hmem => ⟨?_, ?_⟩⟩
    · exact (resolveImport_eq_ok (hresolved hmem)).2
    · have hkind := hchecked _ hmem
      dsimp only [checkImport] at hkind
      split at hkind
      case isTrue h => exact h
      case isFalse => cases hkind

/-- Every import of a linked module is a function. -/
theorem importedFuncs_of_link (h : link config bindings m = .ok linked) :
    m.importedFuncs = linked.map (·.type) := by
  have hall := (link_eq_ok h).2
  unfold Guest.Module.importedFuncs
  generalize m.imports = imports at hall
  clear h
  induction hall with
  | nil => rfl
  | cons hhead _ ih =>
    rw [List.filterMap_cons, hhead.2, List.map_cons, ← ih]
    rfl

/-! ## Errors -/

/-- An error of linking, and of nothing else. -/
def EngineError.OfLinking (e : EngineError) : Prop := ∃ reason, e = .link reason

theorem bindImport_error {i : Guest.Import} {e : EngineError}
    (h : bindImport config bindings defined i = .error e) : e.OfLinking := by
  have hdefine (new : Linked) (h : define config defined new = .error e) : e.OfLinking := by
    unfold define at h
    split at h
    · cases h
      exact ⟨_, rfl⟩
    · cases h
  unfold bindImport at h
  split at h
  case h_1 => exact hdefine _ h
  case h_2 =>
    split at h
    case h_1 =>
      cases h
      exact ⟨_, rfl⟩
    case h_2 =>
      split at h
      case h_1 => exact hdefine _ h
      case h_2 =>
        cases h
        exact ⟨_, rfl⟩

theorem approve_error {e : EngineError}
    (h : approve config m = .error e) : ∃ reason, e = .validation reason := by
  rcases bind_eq_error_iff.1 h with h | ⟨_, _, h⟩
  · unfold approveEntry at h
    dsimp only at h
    repeat' split at h
    all_goals
      cases h
      try exact ⟨_, rfl⟩
  · refine forM_error (P := fun e => ∃ reason, e = .validation reason) (fun i hi => ?_) h
    unfold approveImport at hi
    repeat' split at hi
    all_goals
      cases hi
      try exact ⟨_, rfl⟩

theorem link_error {e : EngineError} (h : link config bindings m = .error e) : e.OfLinking := by
  unfold link at h
  rcases bind_eq_error_iff.1 h with h | ⟨defined, _, h⟩
  · exact foldlM_error (fun _ _ => bindImport_error) h
  rcases bind_eq_error_iff.1 h with h | ⟨linked, _, h⟩
  · refine mapM_error (fun i hi => ?_) h
    unfold resolveImport at hi
    split at hi
    · cases hi
    · cases hi
      exact ⟨_, rfl⟩
  rcases bind_eq_error_iff.1 h with h | ⟨_, _, h⟩
  · refine forM_error (fun x hx => ?_) h
    dsimp only [checkImport] at hx
    split at hx
    · cases hx
    · cases hx
      exact ⟨_, rfl⟩
  rcases bind_eq_error_iff.1 h with h | ⟨_, _, ⟨⟩⟩
  · refine forM_error (fun type htype => ?_) h
    split at htype
    · cases htype
    · cases htype
      exact ⟨_, rfl⟩

end

end EngineHost
