import EngineHost.Proofs.Tracer.Operating
import EngineHost.Proofs.Tracer.Supplying
import Mathlib.Data.List.Nodup
/-
Which modules a tracing engine admits, said without the checks.  A module that
compiles has at most one export of a name, so there is one entry export to speak
of, and it is at fault in at most one way.  The imports are looked at in order,
and the first one at fault is the one that is reported.
-/
namespace EngineHost

section

variable (config : TracerConfig)

/-- An import that a module may have. -/
structure Guest.Import.Admitted (i : Guest.Import) : Prop where
  function : ∃ type, i.kind = .func type
  space : i.space = config.importSpace
  unprivileged : ¬ "wasi".toList <+: i.space.toList

/-- The entry export is there, and it is a function that takes and gives
nothing. -/
def Guest.Module.Enters (m : Guest.Module) : Prop :=
  ∃ e ∈ m.exports, e.name = config.entryExport ∧ e.kind = .func ∧ m.funcType? e.index = some {}

structure Admissible (m : Guest.Module) : Prop where
  entry : m.Enters config
  imports : ∀ i ∈ m.imports, i.Admitted config

/-- What is wrong with the entry export, and what is said then. -/
inductive EntryFault (m : Guest.Module) : String → Prop where
  | missing (hnone : ∀ e ∈ m.exports, e.name ≠ config.entryExport) :
      EntryFault m ("missing entry export: " ++ config.entryExport)
  | another {e : Guest.Export} (he : e ∈ m.exports) (hname : e.name = config.entryExport)
      (hkind : e.kind ≠ .func) :
      EntryFault m ("export '" ++ config.entryExport ++ "' must be a function")
  | mistyped {e : Guest.Export} {type : Guest.FuncType} (he : e ∈ m.exports)
      (hname : e.name = config.entryExport) (hkind : e.kind = .func)
      (htype : m.funcType? e.index = some type) (hnot : type ≠ {}) :
      EntryFault m ("export '" ++ config.entryExport ++ "' must have type () -> (), got " ++
        toString type.params.length ++ " params and " ++
        toString type.results.length ++ " results")

/-- What is wrong with an import, and what is said then.  The name of its space
comes before its kind. -/
inductive ImportFault (i : Guest.Import) : String → Prop where
  | privileged (hsystem : "wasi".toList <+: i.space.toList) :
      ImportFault i ("WASI import not allowed: " ++ qualifiedName i)
  | elsewhere (hnot : ¬ "wasi".toList <+: i.space.toList) (hspace : i.space ≠ config.importSpace) :
      ImportFault i ("import from disallowed module '" ++ i.space ++ "': " ++ qualifiedName i)
  | another (hnot : ¬ "wasi".toList <+: i.space.toList) (hspace : i.space = config.importSpace)
      (hkind : ∀ type, i.kind ≠ .func type) :
      ImportFault i ("import '" ++ qualifiedName i ++ "' must be a function")

/-- The first thing that is wrong with a module. -/
inductive AdmissionFault (m : Guest.Module) : String → Prop where
  | entry {reason : String} (hfault : EntryFault config m reason) : AdmissionFault m reason
  | imported {before after : List Guest.Import} {i : Guest.Import} {reason : String}
      (hentry : m.Enters config) (himports : m.imports = before ++ i :: after)
      (hbefore : ∀ j ∈ before, j.Admitted config) (hfault : ImportFault config i reason) :
      AdmissionFault m reason

end

section

variable {config : TracerConfig} {i : Guest.Import} {m : Guest.Module} {e : EngineError}

/-! ## Imports -/

theorem isSystemSpace_iff {space : String} :
    isSystemSpace space = true ↔ "wasi".toList <+: space.toList :=
  List.isPrefixOf_iff_prefix

theorem Guest.ImportKind.func?_isNone_iff {kind : Guest.ImportKind} :
    kind.func?.isNone = true ↔ ∀ type, kind ≠ .func type := by
  cases kind <;> simp [func?]

theorem approveImport_eq_ok_iff : approveImport config i = .ok () ↔ i.Admitted config := by
  unfold approveImport
  simp only [isSystemSpace_iff]
  constructor
  · intro h
    split at h
    case isTrue => cases h
    case isFalse hsystem =>
      split at h
      case isTrue => cases h
      case isFalse hspace =>
        split at h
        case isTrue => cases h
        case isFalse hkind =>
          rw [Guest.ImportKind.func?_isNone_iff] at hkind
          exact ⟨by simpa using hkind, not_not.1 hspace, hsystem⟩
  · intro h
    obtain ⟨⟨type, htype⟩, hspace, hsystem⟩ := h
    rw [if_neg hsystem, if_neg (not_not.2 hspace), htype]
    rfl

theorem approveImport_eq_error_iff :
    approveImport config i = .error e ↔
      ∃ reason, e = .validation reason ∧ ImportFault config i reason := by
  unfold approveImport
  simp only [isSystemSpace_iff]
  constructor
  · intro h
    split at h
    case isTrue hsystem =>
      cases h
      exact ⟨_, rfl, .privileged hsystem⟩
    case isFalse hsystem =>
      split at h
      case isTrue hspace =>
        cases h
        exact ⟨_, rfl, .elsewhere hsystem hspace⟩
      case isFalse hspace =>
        split at h
        case isTrue hkind =>
          cases h
          exact ⟨_, rfl, .another hsystem (not_not.1 hspace)
            (Guest.ImportKind.func?_isNone_iff.1 hkind)⟩
        case isFalse => cases h
  · intro h
    obtain ⟨reason, rfl, hfault⟩ := h
    cases hfault with
    | privileged hsystem => rw [if_pos hsystem]
    | elsewhere hsystem hspace => rw [if_neg hsystem, if_pos hspace]
    | another hsystem hspace hkind =>
      rw [if_neg hsystem, if_neg (not_not.2 hspace),
        if_pos (Guest.ImportKind.func?_isNone_iff.2 hkind)]

/-! ## The entry export -/

/-- A module that checks has its exports under different names, and what it
exports is there. -/
theorem exports_of_flawless (hm : m.flaw? = none) :
    (∀ e ∈ m.exports, m.exportExists e = true) ∧ (m.exports.map (·.name)).Nodup := by
  unfold Guest.Module.flaw? at hm
  dsimp only at hm
  repeat' split at hm
  all_goals try cases hm
  rename_i hexports _
  simpa using hexports

theorem export?_eq_some_iff (hm : m.flaw? = none) {name : String} {e : Guest.Export} :
    m.export? name = some e ↔ e ∈ m.exports ∧ e.name = name := by
  have hdistinct := (exports_of_flawless hm).2
  unfold Guest.Module.export?
  constructor
  · intro h
    exact ⟨List.mem_of_find?_eq_some h, by simpa using List.find?_some h⟩
  · rintro ⟨he, rfl⟩
    have hfound : (m.exports.find? (·.name = e.name)).isSome := by
      rw [List.find?_isSome]
      exact ⟨e, he, decide_eq_true rfl⟩
    obtain ⟨e', he'⟩ := Option.isSome_iff_exists.1 hfound
    have hname : e'.name = e.name := by simpa using List.find?_some he'
    rw [he', List.inj_on_of_nodup_map hdistinct (List.mem_of_find?_eq_some he') he hname]

theorem export?_eq_none_iff {name : String} :
    m.export? name = none ↔ ∀ e ∈ m.exports, e.name ≠ name := by
  simp [Guest.Module.export?]

theorem Guest.Module.Enters.approveEntry_eq (hm : m.flaw? = none) (h : m.Enters config) :
    approveEntry config m = .ok () := by
  obtain ⟨e, he, hname, hkind, htype⟩ := h
  unfold approveEntry
  dsimp only
  rw [(export?_eq_some_iff hm).2 ⟨he, hname⟩]
  dsimp only
  rw [hkind]
  dsimp only
  rw [htype]
  rfl

theorem EntryFault.approveEntry_eq (hm : m.flaw? = none) {reason : String}
    (h : EntryFault config m reason) : approveEntry config m = .error (.validation reason) := by
  unfold approveEntry
  dsimp only
  cases h with
  | missing hnone => rw [export?_eq_none_iff.2 hnone]
  | @another e he hname hkind =>
    rw [(export?_eq_some_iff hm).2 ⟨he, hname⟩]
    dsimp only
    cases hk : e.kind with
    | func => exact absurd hk hkind
    | memory | global | table => rfl
  | @mistyped e type he hname hkind htype hnot =>
    rw [(export?_eq_some_iff hm).2 ⟨he, hname⟩]
    dsimp only
    rw [hkind]
    dsimp only
    rw [htype]
    refine if_neg fun hboth => hnot ?_
    rw [Bool.and_eq_true, List.isEmpty_iff, List.isEmpty_iff] at hboth
    obtain ⟨params, results⟩ := type
    obtain ⟨rfl, rfl⟩ := hboth
    rfl

/-- The entry export is in order, or there is something wrong with it. -/
theorem enters_or_entryFault (config : TracerConfig) (hm : m.flaw? = none) :
    m.Enters config ∨ ∃ reason, EntryFault config m reason := by
  by_cases hnamed : ∃ e ∈ m.exports, e.name = config.entryExport
  case neg => exact .inr ⟨_, .missing fun e he hname => hnamed ⟨e, he, hname⟩⟩
  case pos =>
    obtain ⟨e, he, hname⟩ := hnamed
    by_cases hkind : e.kind = .func
    case neg => exact .inr ⟨_, .another he hname hkind⟩
    case pos =>
      have hexists := (exports_of_flawless hm).1 e he
      unfold Guest.Module.exportExists at hexists
      rw [hkind] at hexists
      obtain ⟨type, htype⟩ := Option.isSome_iff_exists.1 hexists
      by_cases hempty : type = {}
      case pos => exact .inl ⟨e, he, hname, hkind, hempty ▸ htype⟩
      case neg => exact .inr ⟨_, .mistyped he hname hkind htype hempty⟩

theorem approveEntry_eq_ok_iff (hm : m.flaw? = none) :
    approveEntry config m = .ok () ↔ m.Enters config := by
  refine ⟨fun h => ?_, fun h => h.approveEntry_eq hm⟩
  rcases enters_or_entryFault config hm with henters | ⟨reason, hfault⟩
  · exact henters
  · cases h.symm.trans (hfault.approveEntry_eq hm)

theorem approveEntry_eq_error_iff (hm : m.flaw? = none) :
    approveEntry config m = .error e ↔
      ∃ reason, e = .validation reason ∧ EntryFault config m reason := by
  constructor
  · intro h
    rcases enters_or_entryFault config hm with henters | ⟨reason, hfault⟩
    · cases h.symm.trans (henters.approveEntry_eq hm)
    · cases h.symm.trans (hfault.approveEntry_eq hm)
      exact ⟨reason, rfl, hfault⟩
  · intro h
    obtain ⟨reason, rfl, hfault⟩ := h
    exact hfault.approveEntry_eq hm

/-! ## Modules -/

theorem approve_eq_ok_iff (hm : m.flaw? = none) :
    approve config m = .ok () ↔ Admissible config m := by
  unfold approve
  simp only [bind_eq_ok_iff, forM_eq_ok_iff, approveImport_eq_ok_iff, approveEntry_eq_ok_iff hm]
  constructor
  · intro h
    obtain ⟨⟨⟩, hentry, himports⟩ := h
    exact ⟨hentry, himports⟩
  · intro h
    exact ⟨(), h.entry, h.imports⟩

theorem approve_eq_error_iff (hm : m.flaw? = none) :
    approve config m = .error e ↔
      ∃ reason, e = .validation reason ∧ AdmissionFault config m reason := by
  unfold approve
  simp only [bind_eq_error_iff, approveEntry_eq_error_iff hm, approveEntry_eq_ok_iff hm,
    forM_eq_error_iff, approveImport_eq_ok_iff, approveImport_eq_error_iff]
  constructor
  · intro h
    rcases h with ⟨reason, rfl, hfault⟩ |
      ⟨⟨⟩, hentry, before, i, after, himports, hbefore, reason, rfl, hfault⟩
    · exact ⟨reason, rfl, .entry hfault⟩
    · exact ⟨reason, rfl, .imported hentry himports hbefore hfault⟩
  · intro h
    obtain ⟨reason, rfl, hfault⟩ := h
    cases hfault with
    | entry hfault => exact .inl ⟨reason, rfl, hfault⟩
    | imported hentry himports hbefore hfault =>
      exact .inr ⟨(), hentry, _, _, _, himports, hbefore, reason, rfl, hfault⟩

/-- What an engine says to a module that compiles: it is installed if it is
admissible, and otherwise the first thing wrong with it is reported. -/
theorem Tracer.install_of_compile {t : Tracer} {id : EngineId} {slot : TracerSlot}
    {binary : Guest.Binary} (hslot : t.slots[id]? = some slot) (hcompile : binary.compile = .ok m) :
    ((∃ t', t.install id binary = .ok t') ↔ Admissible t.config m) ∧
      ∀ e, t.install id binary = .error e ↔
        ∃ reason, e = .validation reason ∧ AdmissionFault t.config m reason := by
  have hm := Guest.Binary.flaw?_of_compile hcompile
  rw [← approve_eq_ok_iff hm]
  refine ⟨by simp [install_eq_ok_iff, hslot, hcompile], fun e => ?_⟩
  rw [← approve_eq_error_iff hm, install_eq_error_iff]
  simp [hslot, hcompile]

/-! ## What later checks find -/

/-- The entry export of an admissible module is a function to call. -/
theorem Admissible.entry?_isSome (hm : m.flaw? = none) (h : Admissible config m) :
    (m.entry? config).isSome := by
  obtain ⟨e, he, hname, hkind, htype⟩ := h.entry
  unfold Guest.Module.entry?
  rw [(export?_eq_some_iff hm).2 ⟨he, hname⟩]
  dsimp only
  rw [if_pos ⟨hkind, htype⟩]
  rfl

/-- Where binding the imports of an admissible module fails, a function is
missing or asked for twice.  None of them turns out to be something else. -/
theorem Admissible.bindImports_ne_another (h : Admissible config m) (bindings : Bindings)
    (i : Guest.Import) :
    bindImports config bindings m.imports ≠
      .error (.link ("import '" ++ qualifiedName i ++ "' must be a function")) := by
  intro hbind
  have hfuncs (j : Guest.Import) (hj : j ∈ m.imports) := (h.imports j hj).function
  obtain ⟨before, j, after, -, -, ⟨-, hreason⟩ | ⟨-, hreason⟩⟩ :=
    (bindImports_eq_error_iff hfuncs).1 hbind
  · have hletters := congrArg (·.toList.reverse) (EngineError.link.inj hreason)
    simp [String.toList_append] at hletters
  · have hletters := congrArg (·.toList) (EngineError.link.inj hreason)
    simp [String.toList_append] at hletters

/-- Every import of an admissible module finds its definition. -/
theorem Admissible.link_ne_unknown (hm : m.flaw? = none) (h : Admissible config m)
    (bindings : Bindings) (i : Guest.Import) :
    link config bindings m ≠ .error (.link
      ("instantiate: unknown import: `" ++ qualifiedName i ++ "` has not been defined")) := by
  intro hlink
  obtain ⟨reason, hreason, hfault⟩ := (link_eq_error_iff ((approve_eq_ok_iff hm).2 h)).1 hlink
  obtain rfl := EngineError.link.inj hreason
  generalize htext : "instantiate: unknown import: `" ++ qualifiedName i ++
    "` has not been defined" = text at hfault
  have hletters := congrArg (·.toList) htext
  cases hfault with
  | unsupplied | repeated | mistyped | oversized => simp [String.toList_append] at hletters

section

variable {σ : Type} {budget : Nat} {host : Host σ} {s t : σ} {here : Place σ Tracer} {id : EngineId}

/-- Carrying out a plan whose module has its entry never ends in a complaint
about the module. -/
theorem carryOut_ne_validation {plan : Plan} (hentry : (plan.module.entry? config).isSome)
    {r : Except EngineError Execution}
    (hrun : (carryOut budget host config plan).run s = some (r, t)) (reason : String) :
    r ≠ .error (.validation reason) := by
  rintro rfl
  cases carryOut_eq_some_iff.1 hrun with
  | unlinked hlink => obtain ⟨_, ⟨⟩⟩ := link_error hlink
  | unready _ _ _ hready => obtain ⟨⟨_, _, _, ⟨⟩⟩, _⟩ := prepareMemory_error hready
  | noEntry _ _ _ _ hnone =>
    rw [hnone] at hentry
    cases hentry

theorem initialMemory_ne_validation {plan : Plan} {r : Except EngineError ByteArray}
    (hrun : (initialMemory budget host config plan).run s = some (r, t)) (reason : String) :
    r ≠ .error (.validation reason) := by
  rintro rfl
  rcases initialMemory_eq_some hrun with ⟨e, hlink, ⟨⟩, _⟩ |
    ⟨_, _, _, _, ⟨_, _, ⟨⟩⟩ | ⟨_, _, ⟨⟩⟩ | ⟨_, ⟨⟩⟩⟩
  obtain ⟨_, ⟨⟩⟩ := link_error hlink

namespace Tracer

/-- Everything that is installed was admitted. -/
def Vetted (tracer : Tracer) : Prop :=
  ∀ (id : EngineId) (slot : TracerSlot) (m : Guest.Module),
    tracer.slots[id]? = some slot → slot.module = some m → m.flaw? = none ∧ Admissible tracer.config m

theorem Vetted.compute_ne_validation (hvetted : (here.get s).Vetted)
    {r : Except EngineError ByteArray} (hrun : (compute budget host here id).run s = some (r, t))
    (reason : String) : r ≠ .error (.validation reason) := by
  rintro rfl
  cases compute_eq_some_iff.1 hrun with
  | unplanned hplan =>
    rcases plan_eq_error_iff.1 hplan with ⟨_, hreason⟩ | ⟨_, _, _, hreason⟩
    · cases hreason
    · cases hreason
  | failed hplan hcarried =>
    obtain ⟨slot, m, hslot, hmodule, rfl⟩ := plan_eq_ok_iff.1 hplan
    obtain ⟨hm, hadmissible⟩ := hvetted id slot m hslot hmodule
    exact carryOut_ne_validation (hadmissible.entry?_isSome hm) hcarried reason rfl

theorem Capturing.ne_validation {r : Except EngineError TracerSlot}
    (h : Capturing budget host here id s r t) (reason : String) :
    r ≠ .error (.validation reason) := by
  rintro rfl
  cases h with
  | failed _ _ _ hrun => exact initialMemory_ne_validation hrun reason rfl

theorem snapshot_ne_validation {r : Except EngineError ByteArray}
    (hrun : (snapshot budget host here id).run s = some (r, t)) (reason : String) :
    r ≠ .error (.validation reason) := by
  rintro rfl
  obtain ⟨r, hcapture, hr⟩ := snapshot_eq_some_iff.1 hrun
  cases r with
  | ok => cases hr
  | error =>
    cases hr
    exact hcapture.ne_validation reason rfl

theorem patch_ne_validation {offset length : UInt32} {data : ByteArray}
    {r : Except EngineError Unit}
    (hrun : (patch budget host here id offset length data).run s = some (r, t)) (reason : String) :
    r ≠ .error (.validation reason) := by
  rintro rfl
  cases patch_eq_some_iff.1 hrun with
  | mismatched hmake => cases Patch.make_eq_error hmake
  | uncaptured _ hcapture => exact hcapture.ne_validation reason rfl
  | outside _ _ happly => obtain ⟨⟨_, _, _, ⟨⟩⟩, _⟩ := Patch.applyTo_error happly

end Tracer

end

end

end EngineHost
