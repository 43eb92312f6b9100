import EngineHost.Proofs.Session.Guarding
import EngineHost.Proofs.Tracer.Admitting
/-
What is installed stays admissible.  A module is checked when it is installed,
under settings that its engine never changes, so every look that is taken at it
afterwards finds what the check has left: a run never complains about the module
itself, whatever the host does while the guest runs.
-/
namespace EngineHost

/-! ## Engines with modules that were admitted -/

/-- Everything that is installed in a tracing engine was admitted. -/
def Session.Vetted (s : Session) : Prop :=
  ∀ (index : Nat) (tracer : Tracer), s.tracerAt? index = some tracer → tracer.Vetted

section

variable {s t : Session}

theorem Session.configAt?_eq_some_iff {index : Nat} {config : TracerConfig} :
    s.configAt? index = some config ↔ ∃ tracer, s.tracerAt? index = some tracer ∧
      tracer.config = config := Option.map_eq_some_iff

/-- It is enough that every module in a slot was there, or was admitted, before. -/
theorem Session.Vetted.of_slots (hs : s.Vetted) (hconfig : ∀ k, t.configAt? k = s.configAt? k)
    (hslots : ∀ site slot m, t.slotAt? site = some slot → slot.module = some m →
      (∃ before, s.slotAt? site = some before ∧ before.module = some m) ∨
        ∃ tracer, s.tracerAt? site.foreign = some tracer ∧ m.flaw? = none ∧
          Admissible tracer.config m) : t.Vetted := by
  intro index tracer htracer id slot m hslot hmodule
  have hsite : t.slotAt? ⟨index, id⟩ = some slot := by
    rw [slotAt?, htracer, Option.bind_some, hslot]
  have hthere : s.configAt? index = some tracer.config := by
    rw [← hconfig, configAt?_eq_some_iff]
    exact ⟨tracer, htracer, rfl⟩
  obtain ⟨earlier, hearlier, hsame⟩ := configAt?_eq_some_iff.1 hthere
  rw [← hsame]
  rcases hslots ⟨index, id⟩ slot m hsite hmodule with
    ⟨before, hbefore, hmodule⟩ | ⟨found, hfound, hm, hadmissible⟩
  · rw [slotAt?, hearlier, Option.bind_some] at hbefore
    exact hs index earlier hearlier id before m hbefore hmodule
  · cases hearlier.symm.trans hfound
    exact ⟨hm, hadmissible⟩

variable {d : Discipline} {js : Journal}

theorem Change.vetted (h : Change d s js t) (hs : s.Vetted) : t.Vetted := by
  refine hs.of_slots h.configAt? fun site slot m hslot hmodule => ?_
  have hchange := h.slot site
  rw [hslot] at hchange
  generalize deedsAt site js = deeds at hchange
  generalize s.slotAt? site = before at hchange ⊢
  cases hchange with
  | unchanged => exact .inl ⟨slot, rfl, hmodule⟩
  | created => cases hmodule
  | installed _ htracer hcompile happrove =>
    cases hmodule
    have hm := Guest.Binary.flaw?_of_compile hcompile
    exact .inr ⟨_, htracer, hm, (approve_eq_ok_iff hm).1 happrove⟩
  | bound before | listened before | recorded before => exact .inl ⟨before, rfl, hmodule⟩

/-- Whatever is done, what is installed was admitted. -/
theorem Course.vetted (h : Course d s js t) (hs : s.Vetted) : t.Vetted := by
  refine h.preserves (P := Session.Vetted) (fun _ _ _ hchange => hchange.vetted) ?_ hs
  intro s site slot memory hslot hs
  refine hs.of_slots (fun k => Session.configAt?_setSlotAt (by rw [hslot, Option.isSome_some])) ?_
  intro other after m hafter hmodule
  rw [Session.slotAt?_setSlotAt] at hafter
  split at hafter
  case isTrue hsite =>
    cases hafter
    exact .inl ⟨slot, hsite ▸ hslot, hmodule⟩
  case isFalse => exact .inl ⟨after, hafter, hmodule⟩

theorem Session.Fresh.vetted (h : s.Fresh) : s.Vetted := by
  intro index tracer htracer id slot m hslot
  have hempty : s.slotAt? ⟨index, id⟩ = none := h.slotAt? ⟨index, id⟩
  rw [Session.slotAt?, htracer, Option.bind_some, hslot] at hempty
  cases hempty

end

/-! ## Checks that never fail -/

/-- What is left to find in a module once it is installed. -/
structure Guest.Module.Cleared (m : Guest.Module) (config : TracerConfig) : Prop where
  admissible : Admissible config m
  /-- A function is all that an import turns out to be. -/
  binding : ∀ (bindings : Bindings) (i : Guest.Import), bindImports config bindings m.imports ≠
    .error (.link ("import '" ++ qualifiedName i ++ "' must be a function"))
  /-- Linking fails over something that the module asks the import space for, or
  over its memory. -/
  linking : ∀ (bindings : Bindings) (e : EngineError), link config bindings m = .error e →
    ∃ reason, e = .link reason ∧ LinkFault config bindings m reason
  resolving : ∀ (bindings : Bindings) (i : Guest.Import), link config bindings m ≠ .error (.link
    ("instantiate: unknown import: `" ++ qualifiedName i ++ "` has not been defined"))

/-- What is installed is cleared, and no engine complains about its module when
it is run or its memory is looked at or changed. -/
structure Session.Cleared (s : Session) : Prop where
  modules : ∀ (index : Nat) (tracer : Tracer) (id : EngineId) (slot : TracerSlot)
    (m : Guest.Module), s.tracerAt? index = some tracer → tracer.slots[id]? = some slot →
      slot.module = some m → m.Cleared tracer.config
  compute : ∀ (budget : Nat) (host : Host Session) (index : Nat) (id : EngineId)
    (r : Except EngineError ByteArray) (t : Session),
      (Foreign.compute budget host (foreignAt index) id).run s = some (r, t) →
        ∀ reason, r ≠ .error (.validation reason)
  snapshot : ∀ (budget : Nat) (host : Host Session) (index : Nat) (id : EngineId)
    (r : Except EngineError ByteArray) (t : Session),
      (Foreign.snapshot budget host (foreignAt index) id).run s = some (r, t) →
        ∀ reason, r ≠ .error (.validation reason)
  patch : ∀ (budget : Nat) (host : Host Session) (index : Nat) (id : EngineId)
    (offset length : UInt32) (data : ByteArray) (r : Except EngineError Unit) (t : Session),
      (Foreign.patch budget host (foreignAt index) id offset length data).run s = some (r, t) →
        ∀ reason, r ≠ .error (.validation reason)

theorem Admissible.cleared {config : TracerConfig} {m : Guest.Module} (hm : m.flaw? = none)
    (h : Admissible config m) : m.Cleared config where
  admissible := h
  binding := h.bindImports_ne_another
  linking _ _ := (link_eq_error_iff ((approve_eq_ok_iff hm).2 h)).1
  resolving := h.link_ne_unknown hm

namespace Scripted

variable {e : Scripted} {id : EngineId} {reason : String}

theorem slot_ne_validation : e.slot id ≠ .error (.validation reason) := by
  unfold slot
  split <;> nofun

theorem compute_ne_validation : e.compute id ≠ .error (.validation reason) := by
  intro h
  rcases bind_eq_error_iff.1 h with h | ⟨slot, _, h⟩
  · exact slot_ne_validation h
  · split at h <;> cases h

theorem snapshot_ne_validation : e.snapshot id ≠ .error (.validation reason) := by
  intro h
  rcases bind_eq_error_iff.1 h with h | ⟨_, _, ⟨⟩⟩
  exact slot_ne_validation h

theorem patch_ne_validation {offset length : UInt32} {data : ByteArray} :
    e.patch id offset length data ≠ .error (.validation reason) := by
  intro h
  rcases bind_eq_error_iff.1 h with h | ⟨slot, _, h⟩
  · exact slot_ne_validation h
  rcases bind_eq_error_iff.1 h with h | ⟨_, _, h⟩
  · cases checkLength_eq_error h
  rcases bind_eq_error_iff.1 h with h | ⟨_, _, ⟨⟩⟩
  obtain ⟨_, _, _, ⟨⟩⟩ := rangeIn_error h

end Scripted

section

variable {s : Session}

/-- The tracing engine that a guest of a foreign engine runs in. -/
theorem Session.Vetted.here (hs : s.Vetted) (index : Nat) :
    ((foreignAt index).tracer.get s).Vetted := by
  rw [tracer_get]
  cases htracer : s.tracerAt? index with
  | some tracer => exact hs index tracer htracer
  | none =>
    intro id slot m hslot
    change (∅ : EngineTable TracerSlot)[id]? = some slot at hslot
    rw [Std.ExtTreeMap.getElem?_empty] at hslot
    cases hslot

/-- Where everything that is installed was admitted, nothing more can be wrong
with it. -/
theorem Session.Vetted.cleared (hs : s.Vetted) : s.Cleared where
  modules index tracer id slot m htracer hslot hmodule := by
    obtain ⟨hm, hadmissible⟩ := hs index tracer htracer id slot m hslot hmodule
    exact hadmissible.cleared hm
  compute budget host index id r t hrun reason := by
    obtain ⟨f, _, ⟨⟩, hrun⟩ := Turn.run_lift_bind_eq_some_iff.1 hrun
    cases hforeign : (foreignAt index).get s with
    | scripted e | pinned e =>
      rw [hforeign] at hrun
      cases hrun
      exact Scripted.compute_ne_validation
    | tracing tracer =>
      rw [hforeign] at hrun
      exact (hs.here index).compute_ne_validation hrun reason
  snapshot budget host index id r t hrun reason := by
    obtain ⟨f, _, ⟨⟩, hrun⟩ := Turn.run_lift_bind_eq_some_iff.1 hrun
    cases hforeign : (foreignAt index).get s with
    | scripted e | pinned e =>
      rw [hforeign] at hrun
      cases hrun
      exact Scripted.snapshot_ne_validation
    | tracing tracer =>
      rw [hforeign] at hrun
      exact Tracer.snapshot_ne_validation hrun reason
  patch budget host index id offset length data r t hrun reason := by
    obtain ⟨f, _, ⟨⟩, hrun⟩ := Turn.run_lift_bind_eq_some_iff.1 hrun
    cases hforeign : (foreignAt index).get s with
    | scripted e | pinned e =>
      rw [hforeign] at hrun
      rcases Attempt.run_ofExcept_bind_eq_some_iff.1 hrun with ⟨e', hpatch, rfl, rfl⟩ | ⟨_, _, ⟨⟩⟩
      · rintro ⟨⟩
        exact Scripted.patch_ne_validation hpatch
      · nofun
    | tracing tracer =>
      rw [hforeign] at hrun
      exact Tracer.patch_ne_validation hrun reason

end

/-- A module that compiles is installed if it is admissible, and otherwise the
first thing wrong with it is reported.  From then on nothing more can be wrong
with what is installed: that holds in every session that a run passes through,
in the middle of callbacks too. -/
theorem admission_is_exact_and_final :
    (∀ (tracer : Tracer) (id : EngineId) (slot : TracerSlot) (binary : Guest.Binary)
      (m : Guest.Module), tracer.slots[id]? = some slot → binary.compile = .ok m →
        ((∃ after, tracer.install id binary = .ok after) ↔ Admissible tracer.config m) ∧
        ∀ e, tracer.install id binary = .error e ↔
          ∃ reason, e = .validation reason ∧ AdmissionFault tracer.config m reason) ∧
    ∀ (budget depth : Nat) (s : Session) (ops : List Op) (log : List (Answer × List Event)),
      s.Fresh → s.transcript budget depth ops = some log →
        s.guarded Session.Cleared budget depth ops = some log := by
  constructor
  case left =>
    intro tracer id slot binary m hslot hcompile
    exact Tracer.install_of_compile hslot hcompile
  case right =>
    intro budget depth s ops log hfresh hrun
    exact Session.guarded_eq_transcript (d := .none) (I := Session.Vetted)
      (fun _ => Session.kept_none) Course.vetted Session.Vetted.cleared hfresh.vetted
      (fun _ _ => trivial) hrun

/-- A guest with its entry in order, and an import of the system interface behind
one that it may have. -/
def intrudingGuest : Guest.Module where
  imports := [⟨"env", "_evm_stop", .func {}⟩, ⟨"wasi", "exit", .func {}⟩]
  funcs := #[{}]
  exports := [⟨"main", .func, 2⟩]

/-- A guest that is refused, one without an entry, one that is run, and the first
once more. -/
def intrudingOps : List Op := [
  .foreign 0 .create,
  .foreign 0 (.install ⟨1⟩ (.described intrudingGuest)),
  .foreign 0 (.install ⟨1⟩ (.described {})),
  .foreign 0 (.install ⟨1⟩ (.described { intrudingGuest with
    imports := [⟨"env", "_evm_stop", .func {}⟩, ⟨"env", "_evm_revert", .func {}⟩] })),
  .foreign 0 (.compute ⟨1⟩),
  .foreign 0 (.install ⟨1⟩ (.described intrudingGuest)),
  .foreign 0 (.memory ⟨1⟩)]

theorem intrudingGuest_refused :
    (({} : Tracer).create ⟨1⟩).install ⟨1⟩ (.described intrudingGuest) =
        .error (.validation "WASI import not allowed: wasi::exit") ∧
      ∃ log, (tracingSession {}).transcript 9 3 intrudingOps = some log ∧
        (tracingSession {}).guarded Session.Cleared 9 3 intrudingOps = some log := by
  constructor
  case left =>
    have hslot : (({} : Tracer).create ⟨1⟩).slots[(⟨1⟩ : EngineId)]? = some {} := by
      rw [Tracer.create, Tracer.slots_setSlot, if_pos rfl]
    have hcompile : (Guest.Binary.described intrudingGuest).compile = .ok intrudingGuest := by
      with_unfolding_all rfl
    obtain ⟨-, hrefused⟩ :=
      admission_is_exact_and_final.1 _ ⟨1⟩ _ (.described intrudingGuest) _ hslot hcompile
    refine (hrefused _).2 ⟨_, rfl, ?_⟩
    have hsystem : "wasi".toList <+: "wasi".toList := List.prefix_rfl
    have henters : intrudingGuest.Enters {} :=
      ⟨⟨"main", .func, 2⟩, List.mem_singleton_self _, rfl, rfl, rfl⟩
    have hbefore : ∀ i ∈ [(⟨"env", "_evm_stop", .func {}⟩ : Guest.Import)], i.Admitted {} :=
      fun i hi => List.mem_singleton.1 hi ▸ ⟨⟨{}, rfl⟩, rfl, by decide⟩
    exact .imported henters rfl hbefore (.privileged (i := ⟨"wasi", "exit", .func {}⟩) hsystem)
  case right =>
    have hsome : ((tracingSession {}).transcript 9 3 intrudingOps).isSome := by decide +kernel
    obtain ⟨log, hlog⟩ := Option.isSome_iff_exists.1 hsome
    exact ⟨log, hlog, admission_is_exact_and_final.2 9 3 _ _ _ (tracingSession_fresh {}) hlog⟩

end EngineHost
