import EngineHost.Proofs.Tracer.Slots
import EngineHost.Proofs.Tracer.Traced
/-
All the ways in which the operations that run guests can go, one for each place
where they can end.  The host may do anything to the engine while a guest runs,
so what was there before a run is looked up again after it.
-/
namespace EngineHost

namespace Tracer

section

variable {σ : Type} (budget : Nat) (host : Host σ) (here : Place σ Tracer) (id : EngineId)

/-- What comes of a computation, from one world to another. -/
inductive Computing (s : σ) : Except EngineError ByteArray → σ → Prop where
  | unplanned {e : EngineError} (hplan : (here.get s).plan id = .error e) :
      Computing s (.error e) s
  | failed {plan : Plan} {e : EngineError} {t : σ} (hplan : (here.get s).plan id = .ok plan)
      (hrun : (carryOut budget host (here.get s).config plan).run s = some (.error e, t)) :
      Computing s (.error e) t
  | unkept {plan : Plan} {payload : ByteArray} {t : σ}
      (hplan : (here.get s).plan id = .ok plan)
      (hrun : (carryOut budget host (here.get s).config plan).run s =
        some (.ok { payload, memory := none }, t)) : Computing s (.ok payload) t
  | vanished {plan : Plan} {payload memory : ByteArray} {t : σ}
      (hplan : (here.get s).plan id = .ok plan)
      (hrun : (carryOut budget host (here.get s).config plan).run s =
        some (.ok { payload, memory := some memory }, t))
      (hgone : (here.get t).slots[id]? = none) : Computing s (.error (.unknownEngine id)) t
  | kept {plan : Plan} {payload memory : ByteArray} {slot : TracerSlot} {t : σ}
      (hplan : (here.get s).plan id = .ok plan)
      (hrun : (carryOut budget host (here.get s).config plan).run s =
        some (.ok { payload, memory := some memory }, t))
      (hslot : (here.get t).slots[id]? = some slot) :
      Computing s (.ok payload)
        (here.set ((here.get t).setSlot id { slot with image := some memory }) t)

/-- What comes of seeing to it that there is an image. -/
inductive Capturing (s : σ) : Except EngineError TracerSlot → σ → Prop where
  | unknown (hnone : (here.get s).slots[id]? = none) :
      Capturing s (.error (.unknownEngine id)) s
  | present {slot : TracerSlot} (hslot : (here.get s).slots[id]? = some slot)
      (himage : slot.image.isSome) : Capturing s (.ok slot) s
  | uninstalled {slot : TracerSlot} (hslot : (here.get s).slots[id]? = some slot)
      (himage : slot.image = none) (hmodule : slot.module = none) :
      Capturing s (.error (.noBinary id)) s
  | failed {slot : TracerSlot} {m : Guest.Module} {e : EngineError} {t : σ}
      (hslot : (here.get s).slots[id]? = some slot) (himage : slot.image = none)
      (hmodule : slot.module = some m)
      (hrun : (initialMemory budget host (here.get s).config (slot.planOf id m)).run s =
        some (.error e, t)) : Capturing s (.error e) t
  | vanished {slot : TracerSlot} {m : Guest.Module} {memory : ByteArray} {t : σ}
      (hslot : (here.get s).slots[id]? = some slot) (himage : slot.image = none)
      (hmodule : slot.module = some m)
      (hrun : (initialMemory budget host (here.get s).config (slot.planOf id m)).run s =
        some (.ok memory, t))
      (hgone : (here.get t).slots[id]? = none) : Capturing s (.error (.unknownEngine id)) t
  | captured {slot after : TracerSlot} {m : Guest.Module} {memory : ByteArray} {t : σ}
      (hslot : (here.get s).slots[id]? = some slot) (himage : slot.image = none)
      (hmodule : slot.module = some m)
      (hrun : (initialMemory budget host (here.get s).config (slot.planOf id m)).run s =
        some (.ok memory, t))
      (hafter : (here.get t).slots[id]? = some after) :
      Capturing s (.ok { after with image := some (after.image.getD memory) })
        (here.set ((here.get t).setSlot id { after with image := some (after.image.getD memory) })
          t)

/-- What comes of a patch. -/
inductive Patching (offset length : UInt32) (data : ByteArray) (s : σ) :
    Except EngineError Unit → σ → Prop where
  | mismatched {e : EngineError} (hmake : Patch.make offset length data = .error e) :
      Patching offset length data s (.error e) s
  | uncaptured {p : Patch} {e : EngineError} {t : σ}
      (hmake : Patch.make offset length data = .ok p)
      (hcapture : Capturing budget host here id s (.error e) t) :
      Patching offset length data s (.error e) t
  | outside {p : Patch} {slot : TracerSlot} {e : EngineError} {t : σ}
      (hmake : Patch.make offset length data = .ok p)
      (hcapture : Capturing budget host here id s (.ok slot) t)
      (happly : p.applyTo (slot.image.getD .empty) = .error e) :
      Patching offset length data s (.error e) t
  | accepted {p : Patch} {slot : TracerSlot} {image : ByteArray} {t : σ}
      (hmake : Patch.make offset length data = .ok p)
      (hcapture : Capturing budget host here id s (.ok slot) t)
      (happly : p.applyTo (slot.image.getD .empty) = .ok image) :
      Patching offset length data s (.ok ())
        (here.set ((here.get t).setSlot id
          { slot with image := some image, patches := slot.patches ++ [p] }) t)

end

section

variable {σ : Type} {budget : Nat} {host : Host σ} {here : Place σ Tracer} {id : EngineId}
  {s t : σ}

theorem plan_eq_error_iff {tracer : Tracer} {e : EngineError} :
    tracer.plan id = .error e ↔
      (tracer.slots[id]? = none ∧ e = .unknownEngine id) ∨
        ∃ slot, tracer.slots[id]? = some slot ∧ slot.module = none ∧ e = .noBinary id := by
  simp only [plan, bind_eq_error_iff, slot_eq_ok_iff, slot_eq_error_iff]
  refine or_congr_right (exists_congr fun slot => and_congr_right fun _ => ?_)
  cases slot.module with
  | none => simp [eq_comm]
  | some m => simp [pure, Except.pure]

theorem install_eq_error_iff {tracer : Tracer} {binary : Guest.Binary} {e : EngineError} :
    tracer.install id binary = .error e ↔
      (tracer.slots[id]? = none ∧ e = .unknownEngine id) ∨
        (tracer.slots[id]?).isSome ∧
          ((∃ flaw, binary.compile = .error flaw ∧ e = .compile flaw.message) ∨
            ∃ m, binary.compile = .ok m ∧ approve tracer.config m = .error e) := by
  unfold install slot
  cases tracer.slots[id]? with
  | none => simp [bind, Except.bind, eq_comm]
  | some s =>
    cases binary.compile with
    | error flaw => simp [bind, Except.bind, Except.mapError, eq_comm]
    | ok m =>
      cases happrove : approve tracer.config m with
      | error e' => simp [bind, Except.bind, Except.mapError, happrove]
      | ok => simp [bind, Except.bind, Except.mapError, happrove, pure, Except.pure]

theorem compute_eq_some_iff {r : Except EngineError ByteArray} :
    (compute budget host here id).run s = some (r, t) ↔
      Computing budget host here id s r t := by
  unfold compute
  constructor
  · intro h
    obtain ⟨_, _, ⟨⟩, h⟩ := Turn.run_lift_bind_eq_some_iff.1 h
    rcases Attempt.run_ofExcept_bind_eq_some_iff.1 h with ⟨e, hplan, rfl, rfl⟩ | ⟨plan, hplan, h⟩
    · exact .unplanned hplan
    rcases Turn.run_bind_eq_some_iff.1 h with ⟨e, hrun, rfl⟩ | ⟨⟨payload, memory⟩, u, hrun, h⟩
    · exact .failed hplan hrun
    cases memory with
    | none =>
      cases h
      exact .unkept hplan hrun
    | some memory =>
      obtain ⟨_, _, ⟨⟩, h⟩ := Turn.run_lift_bind_eq_some_iff.1 h
      rcases Attempt.run_ofExcept_bind_eq_some_iff.1 h with ⟨e, hslot, rfl, rfl⟩ | ⟨slot, hslot, h⟩
      · obtain ⟨hgone, rfl⟩ := slot_eq_error_iff.1 hslot
        exact .vanished hplan hrun hgone
      · obtain ⟨_, _, ⟨⟩, ⟨⟩⟩ := Turn.run_lift_bind_eq_some_iff.1 h
        exact .kept hplan hrun (slot_eq_ok_iff.1 hslot)
  · intro h
    refine Turn.run_lift_bind_eq_some_iff.2 ⟨_, s, rfl, ?_⟩
    cases h with
    | unplanned hplan => exact Attempt.run_ofExcept_bind_eq_some_iff.2 (.inl ⟨_, hplan, rfl, rfl⟩)
    | failed hplan hrun =>
      exact Attempt.run_ofExcept_bind_eq_some_iff.2 (.inr ⟨_, hplan,
        Turn.run_bind_eq_some_iff.2 (.inl ⟨_, hrun, rfl⟩)⟩)
    | unkept hplan hrun =>
      exact Attempt.run_ofExcept_bind_eq_some_iff.2 (.inr ⟨_, hplan,
        Turn.run_bind_eq_some_iff.2 (.inr ⟨_, _, hrun, rfl⟩)⟩)
    | vanished hplan hrun hgone =>
      refine Attempt.run_ofExcept_bind_eq_some_iff.2 (.inr ⟨_, hplan,
        Turn.run_bind_eq_some_iff.2 (.inr ⟨_, t, hrun, ?_⟩)⟩)
      refine Turn.run_lift_bind_eq_some_iff.2 ⟨_, t, rfl, ?_⟩
      exact Attempt.run_ofExcept_bind_eq_some_iff.2
        (.inl ⟨_, slot_eq_error_iff.2 ⟨hgone, rfl⟩, rfl, rfl⟩)
    | @kept _ _ _ _ u hplan hrun hslot =>
      refine Attempt.run_ofExcept_bind_eq_some_iff.2 (.inr ⟨_, hplan,
        Turn.run_bind_eq_some_iff.2 (.inr ⟨_, u, hrun, ?_⟩)⟩)
      refine Turn.run_lift_bind_eq_some_iff.2 ⟨_, u, rfl, ?_⟩
      refine Attempt.run_ofExcept_bind_eq_some_iff.2 (.inr ⟨_, slot_eq_ok_iff.2 hslot, ?_⟩)
      exact Turn.run_lift_bind_eq_some_iff.2 ⟨_, _, rfl, rfl⟩

theorem Computing.mono {budget' : Nat} (hbudget : budget ≤ budget')
    {r : Except EngineError ByteArray} (h : Computing budget host here id s r t) :
    Computing budget' host here id s r t := by
  cases h with
  | unplanned hplan => exact .unplanned hplan
  | failed hplan hrun => exact .failed hplan (carryOut_mono hbudget hrun)
  | unkept hplan hrun => exact .unkept hplan (carryOut_mono hbudget hrun)
  | vanished hplan hrun hgone => exact .vanished hplan (carryOut_mono hbudget hrun) hgone
  | kept hplan hrun hslot => exact .kept hplan (carryOut_mono hbudget hrun) hslot

/-- A computation comes to one result, whatever the budget. -/
theorem Computing.unique {budget' : Nat} {r r' : Except EngineError ByteArray} {t' : σ}
    (h : Computing budget host here id s r t) (h' : Computing budget' host here id s r' t') :
    r = r' := by
  have h := compute_eq_some_iff.2 (h.mono (Nat.le_max_left budget budget'))
  have h' := compute_eq_some_iff.2 (h'.mono (Nat.le_max_right budget budget'))
  cases h.symm.trans h'
  rfl

theorem capture_eq_some_iff {r : Except EngineError TracerSlot} :
    (capture budget host here id).run s = some (r, t) ↔
      Capturing budget host here id s r t := by
  unfold capture
  constructor
  · intro h
    obtain ⟨_, _, ⟨⟩, h⟩ := Turn.run_lift_bind_eq_some_iff.1 h
    rcases Attempt.run_ofExcept_bind_eq_some_iff.1 h with ⟨e, hslot, rfl, rfl⟩ | ⟨slot, hslot, h⟩
    · obtain ⟨hnone, rfl⟩ := slot_eq_error_iff.1 hslot
      exact .unknown hnone
    rw [slot_eq_ok_iff] at hslot
    dsimp only at h
    split at h
    case isTrue himage =>
      cases h
      exact .present hslot himage
    case isFalse himage =>
      rw [Bool.not_eq_true, Option.isSome_eq_false_iff, Option.isNone_iff_eq_none] at himage
      rcases Attempt.run_ofExcept_bind_eq_some_iff.1 h with ⟨e, hplan, rfl, rfl⟩ | ⟨plan, hplan, h⟩
      · rcases plan_eq_error_iff.1 hplan with ⟨hnone, _⟩ | ⟨_, hslot', hmodule, rfl⟩
        · cases hslot.symm.trans hnone
        · cases hslot.symm.trans hslot'
          exact .uninstalled hslot himage hmodule
      obtain ⟨_, m, hslot', hmodule, rfl⟩ := plan_eq_ok_iff.1 hplan
      cases hslot.symm.trans hslot'
      rcases Turn.run_bind_eq_some_iff.1 h with ⟨e, hrun, rfl⟩ | ⟨memory, u, hrun, h⟩
      · exact .failed hslot himage hmodule hrun
      obtain ⟨_, _, ⟨⟩, h⟩ := Turn.run_lift_bind_eq_some_iff.1 h
      rcases Attempt.run_ofExcept_bind_eq_some_iff.1 h with ⟨e, hafter, rfl, rfl⟩ | ⟨after, hafter, h⟩
      · obtain ⟨hgone, rfl⟩ := slot_eq_error_iff.1 hafter
        exact .vanished hslot himage hmodule hrun hgone
      · obtain ⟨_, _, ⟨⟩, ⟨⟩⟩ := Turn.run_lift_bind_eq_some_iff.1 h
        exact .captured hslot himage hmodule hrun (slot_eq_ok_iff.1 hafter)
  · intro h
    refine Turn.run_lift_bind_eq_some_iff.2 ⟨_, s, rfl, ?_⟩
    -- Past the two looks at the slot, if there is no image yet.
    have hplanned {slot : TracerSlot} (hslot : (here.get s).slots[id]? = some slot)
        (himage : slot.image = none) {m : Guest.Module} (hmodule : slot.module = some m) :
        (here.get s).plan id = .ok (slot.planOf id m) ∧ ¬ slot.image.isSome = true :=
      ⟨plan_eq_ok_iff.2 ⟨slot, m, hslot, hmodule, rfl⟩, by simp [himage]⟩
    cases h with
    | unknown hnone =>
      exact Attempt.run_ofExcept_bind_eq_some_iff.2
        (.inl ⟨_, slot_eq_error_iff.2 ⟨hnone, rfl⟩, rfl, rfl⟩)
    | present hslot himage =>
      refine Attempt.run_ofExcept_bind_eq_some_iff.2 (.inr ⟨_, slot_eq_ok_iff.2 hslot, ?_⟩)
      rw [if_pos himage]
      rfl
    | uninstalled hslot himage hmodule =>
      refine Attempt.run_ofExcept_bind_eq_some_iff.2 (.inr ⟨_, slot_eq_ok_iff.2 hslot, ?_⟩)
      have hplan := plan_eq_error_iff.2 (.inr ⟨_, hslot, hmodule, rfl⟩)
      rw [if_neg (by simp [himage])]
      exact Attempt.run_ofExcept_bind_eq_some_iff.2 (.inl ⟨_, hplan, rfl, rfl⟩)
    | failed hslot himage hmodule hrun =>
      refine Attempt.run_ofExcept_bind_eq_some_iff.2 (.inr ⟨_, slot_eq_ok_iff.2 hslot, ?_⟩)
      obtain ⟨hplan, hblank⟩ := hplanned hslot himage hmodule
      rw [if_neg hblank]
      exact Attempt.run_ofExcept_bind_eq_some_iff.2 (.inr ⟨_, hplan,
        Turn.run_bind_eq_some_iff.2 (.inl ⟨_, hrun, rfl⟩)⟩)
    | vanished hslot himage hmodule hrun hgone =>
      refine Attempt.run_ofExcept_bind_eq_some_iff.2 (.inr ⟨_, slot_eq_ok_iff.2 hslot, ?_⟩)
      obtain ⟨hplan, hblank⟩ := hplanned hslot himage hmodule
      rw [if_neg hblank]
      refine Attempt.run_ofExcept_bind_eq_some_iff.2 (.inr ⟨_, hplan,
        Turn.run_bind_eq_some_iff.2 (.inr ⟨_, t, hrun, ?_⟩)⟩)
      refine Turn.run_lift_bind_eq_some_iff.2 ⟨_, t, rfl, ?_⟩
      exact Attempt.run_ofExcept_bind_eq_some_iff.2
        (.inl ⟨_, slot_eq_error_iff.2 ⟨hgone, rfl⟩, rfl, rfl⟩)
    | @captured _ _ _ _ u hslot himage hmodule hrun hafter =>
      refine Attempt.run_ofExcept_bind_eq_some_iff.2 (.inr ⟨_, slot_eq_ok_iff.2 hslot, ?_⟩)
      obtain ⟨hplan, hblank⟩ := hplanned hslot himage hmodule
      rw [if_neg hblank]
      refine Attempt.run_ofExcept_bind_eq_some_iff.2 (.inr ⟨_, hplan,
        Turn.run_bind_eq_some_iff.2 (.inr ⟨_, u, hrun, ?_⟩)⟩)
      refine Turn.run_lift_bind_eq_some_iff.2 ⟨_, u, rfl, ?_⟩
      refine Attempt.run_ofExcept_bind_eq_some_iff.2 (.inr ⟨_, slot_eq_ok_iff.2 hafter, ?_⟩)
      exact Turn.run_lift_bind_eq_some_iff.2 ⟨_, _, rfl, rfl⟩

theorem snapshot_eq_some_iff {r : Except EngineError ByteArray} :
    (snapshot budget host here id).run s = some (r, t) ↔
      ∃ r', Capturing budget host here id s r' t ∧ r = r'.map (·.image.getD .empty) := by
  unfold snapshot
  rw [Turn.run_bind_eq_some_iff]
  constructor
  · intro h
    rcases h with ⟨e, hcapture, rfl⟩ | ⟨slot, _, hcapture, ⟨⟩⟩
    · exact ⟨_, capture_eq_some_iff.1 hcapture, rfl⟩
    · exact ⟨_, capture_eq_some_iff.1 hcapture, rfl⟩
  · intro h
    obtain ⟨r', hcapture, rfl⟩ := h
    rw [← capture_eq_some_iff] at hcapture
    cases r' with
    | error e => exact .inl ⟨e, hcapture, rfl⟩
    | ok slot => exact .inr ⟨slot, t, hcapture, rfl⟩

theorem patch_eq_some_iff {offset length : UInt32} {data : ByteArray}
    {r : Except EngineError Unit} :
    (patch budget host here id offset length data).run s = some (r, t) ↔
      Patching budget host here id offset length data s r t := by
  unfold patch
  constructor
  · intro h
    rcases Attempt.run_ofExcept_bind_eq_some_iff.1 h with ⟨e, hmake, rfl, rfl⟩ | ⟨p, hmake, h⟩
    · exact .mismatched hmake
    rcases Turn.run_bind_eq_some_iff.1 h with ⟨e, hcapture, rfl⟩ | ⟨slot, u, hcapture, h⟩
    · exact .uncaptured hmake (capture_eq_some_iff.1 hcapture)
    rw [capture_eq_some_iff] at hcapture
    rcases Attempt.run_ofExcept_bind_eq_some_iff.1 h with ⟨e, happly, rfl, rfl⟩ | ⟨image, happly, h⟩
    · exact .outside hmake hcapture happly
    · obtain ⟨_, _, ⟨⟩, ⟨⟩⟩ := Turn.run_lift_bind_eq_some_iff.1 h
      exact .accepted hmake hcapture happly
  · intro h
    cases h with
    | mismatched hmake => exact Attempt.run_ofExcept_bind_eq_some_iff.2 (.inl ⟨_, hmake, rfl, rfl⟩)
    | uncaptured hmake hcapture =>
      exact Attempt.run_ofExcept_bind_eq_some_iff.2 (.inr ⟨_, hmake,
        Turn.run_bind_eq_some_iff.2 (.inl ⟨_, capture_eq_some_iff.2 hcapture, rfl⟩)⟩)
    | outside hmake hcapture happly =>
      refine Attempt.run_ofExcept_bind_eq_some_iff.2 (.inr ⟨_, hmake,
        Turn.run_bind_eq_some_iff.2 (.inr ⟨_, t, capture_eq_some_iff.2 hcapture, ?_⟩)⟩)
      exact Attempt.run_ofExcept_bind_eq_some_iff.2 (.inl ⟨_, happly, rfl, rfl⟩)
    | @accepted _ _ _ u hmake hcapture happly =>
      refine Attempt.run_ofExcept_bind_eq_some_iff.2 (.inr ⟨_, hmake,
        Turn.run_bind_eq_some_iff.2 (.inr ⟨_, u, capture_eq_some_iff.2 hcapture, ?_⟩)⟩)
      refine Attempt.run_ofExcept_bind_eq_some_iff.2 (.inr ⟨_, happly, ?_⟩)
      exact Turn.run_lift_bind_eq_some_iff.2 ⟨_, _, rfl, rfl⟩

end

end Tracer

end EngineHost
