import EngineHost.Proofs.Session.Alike
/-
One-shot executions.  A binary is run in an engine made for it, which no import
is bound for and no listener is armed for.  So nothing of the host's runs, and
what comes out depends on the binary and on the make of the foreign engine only.
What is left behind is an identity drawn and the slot of the engine.
-/
namespace EngineHost

/-! ## A new engine -/

namespace Session

/-- Draw an identity and give it a slot in a foreign engine. -/
def spawn (s : Session) (index : Nat) (slot : Held) : Session :=
  { s with ids := s.ids.draw.2 }.setForeign index
    (((foreignAt index).get s).hold ⟨s.ids.next⟩ slot)

variable {s : Session} {index : Nat} {slot : Held}

theorem get_spawn : (foreignAt index).get (s.spawn index slot) =
    ((foreignAt index).get s).hold ⟨s.ids.next⟩ slot := by
  unfold spawn
  rw [foreign_get_setForeign, if_pos rfl]

/-- Another slot of the same make for an engine that was just made. -/
theorem setForeign_spawn {old : Held} {f : Foreign}
    (h : f = ((foreignAt index).get s).hold ⟨s.ids.next⟩ slot) :
    (s.spawn index old).setForeign index f = s.spawn index slot := by
  rw [h]
  exact (foreignAt index).set_set _ _ { s with ids := s.ids.draw.2 }

end Session

theorem Scripted.setSlot_setSlot {e : Scripted} {id : EngineId} {a b : ScriptedSlot} :
    (e.setSlot id a).setSlot id b = e.setSlot id b := by
  refine congrArg (Scripted.mk e.memorySize) (Std.ExtTreeMap.ext_getElem? fun {k} => ?_)
  show ((e.setSlot id a).setSlot id b).slots[k]? = (e.setSlot id b).slots[k]?
  rw [slots_setSlot, slots_setSlot, slots_setSlot]
  split <;> rfl

theorem Tracer.setSlot_setSlot {t : Tracer} {id : EngineId} {a b : TracerSlot} :
    (t.setSlot id a).setSlot id b = t.setSlot id b := by
  refine congrArg (Tracer.mk t.config) (Std.ExtTreeMap.ext_getElem? fun {k} => ?_)
  show ((t.setSlot id a).setSlot id b).slots[k]? = (t.setSlot id b).slots[k]?
  rw [slots_setSlot, slots_setSlot, slots_setSlot]
  split <;> rfl

/-! ## Running a binary -/

section

variable {s s' : Session} {index : Nat} {go go' : Callback → Run Int32} {budget : Nat}

/-- Two sessions that differ from these in a new engine, with the same slot in
both. -/
def Spawned (index : Nat) (s s' x x' : Session) : Prop :=
  ∃ slot, x = s.spawn index slot ∧ x' = s'.spawn index slot

theorem executeIn_scripted {e : Scripted} (hf : (foreignAt index).get s = .scripted e)
    (binary : Guest.Binary) :
    (executeIn budget go index binary).run s = some (.ok "\x7b\x7d".toUTF8, s.spawn index
      (.scripted { memory := Bytes.zeros e.memorySize, binary := some binary })) := by
  let blank : ScriptedSlot := { memory := Bytes.zeros e.memorySize }
  let filled : ScriptedSlot := { blank with binary := some binary }
  have hspawn (slot : ScriptedSlot) : (foreignAt index).get (s.spawn index (.scripted slot)) =
      .scripted (e.setSlot ⟨s.ids.next⟩ slot) := by
    rw [Session.get_spawn, hf]
    rfl
  have hslot (slot : ScriptedSlot) :
      (e.setSlot ⟨s.ids.next⟩ slot).slots[(⟨s.ids.next⟩ : EngineId)]? = some slot := by
    rw [Scripted.slots_setSlot, if_pos rfl]
  have hcreate : createIn index s = some (⟨s.ids.next⟩, s.spawn index (.scripted blank)) := by
    unfold createIn Session.spawn
    rw [hf]
    rfl
  have hinstall : ((foreignAt index).get (s.spawn index (.scripted blank))).install ⟨s.ids.next⟩
      binary = .ok (.scripted (e.setSlot ⟨s.ids.next⟩ filled)) := by
    rw [hspawn, Foreign.install, Scripted.install, Scripted.slot, hslot]
    exact congrArg (fun e => Except.ok (Foreign.scripted e)) Scripted.setSlot_setSlot
  have hwrite : (s.spawn index (.scripted blank)).setForeign index
      (.scripted (e.setSlot ⟨s.ids.next⟩ filled)) = s.spawn index (.scripted filled) :=
    Session.setForeign_spawn (by rw [hf]; rfl)
  have hcompute : (Foreign.compute budget (sessionHost go) (foreignAt index) ⟨s.ids.next⟩).run
      (s.spawn index (.scripted filled)) =
        some (.ok "\x7b\x7d".toUTF8, s.spawn index (.scripted filled)) := by
    unfold Foreign.compute
    rw [Turn.run_lift_bind, Place.read_bind, hspawn]
    dsimp only
    rw [Scripted.compute, Scripted.slot, hslot]
    rfl
  unfold executeIn
  refine Turn.run_lift_bind_eq_some_iff.2 ⟨_, _, hcreate, ?_⟩
  refine Turn.run_lift_bind_eq_some_iff.2 ⟨_, _, rfl, ?_⟩
  refine Attempt.run_ofExcept_bind_eq_some_iff.2 (.inr ⟨_, hinstall, ?_⟩)
  refine Turn.run_lift_bind_eq_some_iff.2 ⟨_, _, rfl, ?_⟩
  exact (congrArg _ hwrite).trans hcompute

/-- A binary as a module that a tracing engine takes. -/
def Guest.Binary.taken (binary : Guest.Binary) (config : TracerConfig) :
    Except EngineError Guest.Module := do
  let m ← binary.compile.mapError fun flaw => .compile flaw.message
  approve config m
  return m

section

variable {t : Tracer} (hf : (foreignAt index).get s = .tracing t)

include hf

theorem get_spawn_tracing (slot : TracerSlot) :
    (foreignAt index).get (s.spawn index (.tracing slot)) =
      .tracing (t.setSlot ⟨s.ids.next⟩ slot) := by
  rw [Session.get_spawn, hf]
  rfl

theorem setForeign_spawn_tracing (old slot : TracerSlot) :
    (s.spawn index (.tracing old)).setForeign index (.tracing (t.setSlot ⟨s.ids.next⟩ slot)) =
      s.spawn index (.tracing slot) :=
  Session.setForeign_spawn (by rw [hf]; rfl)

theorem createIn_tracing :
    createIn index s = some (⟨s.ids.next⟩, s.spawn index (.tracing {})) := by
  unfold createIn Session.spawn
  rw [hf]
  rfl

theorem install_spawned (binary : Guest.Binary) :
    ((foreignAt index).get (s.spawn index (.tracing {}))).install ⟨s.ids.next⟩ binary =
      (binary.taken t.config).map fun m =>
        .tracing (t.setSlot ⟨s.ids.next⟩ { module := some m }) := by
  rw [get_spawn_tracing hf]
  show ((t.setSlot ⟨s.ids.next⟩ {}).install ⟨s.ids.next⟩ binary).map _ = _
  have hslot : (t.setSlot ⟨s.ids.next⟩ {}).slot ⟨s.ids.next⟩ = .ok {} :=
    Tracer.slot_eq_ok_iff.2 (by rw [Tracer.slots_setSlot, if_pos rfl])
  unfold Tracer.install Guest.Binary.taken
  rw [hslot]
  cases binary.compile with
  | error flaw => rfl
  | ok m =>
    show Except.map _ (approve t.config m >>= _) = Except.map _ (approve t.config m >>= _)
    cases approve t.config m with
    | error cause => rfl
    | ok _ => exact congrArg (fun t => Except.ok (Foreign.tracing t)) Tracer.setSlot_setSlot

end

/-- A new engine calls nothing of the host's. -/
theorem hostsAlike_new {σ τ : Type} (R : σ → τ → Prop) (id id' : EngineId) (m : Guest.Module)
    (host : Host σ) (host' : Host τ) :
    HostsAlike R id id' { module := some m } host host' := by
  refine ⟨fun name b hb => ?_, nofun⟩
  rw [Std.ExtTreeMap.getElem?_empty] at hb
  cases hb

section

variable {t t' : Tracer} (hf : (foreignAt index).get s = .tracing t)
  (hf' : (foreignAt index).get s' = .tracing t') (hconfig : t'.config = t.config)

include hf hf' hconfig

theorem compute_spawned (m : Guest.Module) :
    Coupled (fun x x' => ∃ slot : TracerSlot, x = s.spawn index (.tracing slot) ∧
        x' = s'.spawn index (.tracing slot))
      (s.spawn index (.tracing { module := some m }))
      (s'.spawn index (.tracing { module := some m }))
      (Tracer.compute budget (sessionHost go) (foreignAt index).tracer ⟨s.ids.next⟩).run
      (Tracer.compute budget (sessionHost go') (foreignAt index).tracer ⟨s'.ids.next⟩).run := by
  have hread {s : Session} {t : Tracer} (hf : (foreignAt index).get s = .tracing t)
      (slot : TracerSlot) : (foreignAt index).tracer.get (s.spawn index (.tracing slot)) =
        t.setSlot ⟨s.ids.next⟩ slot := by
    show ((foreignAt index).get _).tracer?.getD {} = _
    rw [get_spawn_tracing hf]
    rfl
  have hslot (t : Tracer) (id : EngineId) (slot : TracerSlot) :
      (t.setSlot id slot).slots[id]? = some slot := by rw [Tracer.slots_setSlot, if_pos rfl]
  have hplan (t : Tracer) (id : EngineId) : (t.setSlot id { module := some m }).plan id =
      .ok (({ module := some m } : TracerSlot).planOf id m) :=
    Tracer.plan_eq_ok_iff.2 ⟨_, m, hslot t id _, rfl, rfl⟩
  have hnew := hostsAlike_new (fun x x' => ∃ slot : TracerSlot, x = s.spawn index (.tracing slot) ∧
    x' = s'.spawn index (.tracing slot)) ⟨s.ids.next⟩ ⟨s'.ids.next⟩ m (sessionHost go)
    (sessionHost go')
  unfold Tracer.compute
  refine .lift_step rfl rfl ?_
  rw [hread hf, hread hf', hplan, hplan]
  refine .ofExcept_step ?_
  rw [show (t'.setSlot _ _).config = t.config from hconfig]
  refine (carryOut_coupled hnew budget _ _ ⟨_, rfl, rfl⟩).run_bind fun done x x' hx => ?_
  cases done.memory with
  | none => exact .pure hx _
  | some memory =>
    obtain ⟨slot, rfl, rfl⟩ := hx
    refine .lift_step rfl rfl ?_
    rw [hread hf, hread hf', Tracer.slot_eq_ok_iff.2 (hslot t _ slot),
      Tracer.slot_eq_ok_iff.2 (hslot t' _ slot)]
    refine .ofExcept_bind ⟨slot, rfl, rfl⟩ fun slot _ => ?_
    rw [Tracer.setSlot_setSlot, Tracer.setSlot_setSlot]
    refine .lift_step rfl rfl (.pure ⟨{ slot with image := some memory }, ?_, ?_⟩ _)
    · exact setForeign_spawn_tracing hf _ _
    · exact setForeign_spawn_tracing hf' _ _

theorem executeIn_tracing (binary : Guest.Binary) :
    Coupled (Spawned index s s') s s' (executeIn budget go index binary).run
      (executeIn budget go' index binary).run := by
  have hread {s : Session} {t : Tracer} (hf : (foreignAt index).get s = .tracing t)
      (slot : TracerSlot) : (foreignAt index).read (s.spawn index (.tracing slot)) =
        some (.tracing (t.setSlot ⟨s.ids.next⟩ slot), s.spawn index (.tracing slot)) := by
    unfold Place.read
    rw [get_spawn_tracing hf]
  have hwrite {s : Session} {t : Tracer} (hf : (foreignAt index).get s = .tracing t)
      (old slot : TracerSlot) :
      (foreignAt index).write (.tracing (t.setSlot ⟨s.ids.next⟩ slot))
        (s.spawn index (.tracing old)) = some ((), s.spawn index (.tracing slot)) :=
    congrArg (fun x => some ((), x)) (setForeign_spawn_tracing hf old slot)
  unfold executeIn
  refine .lift_step (createIn_tracing hf) (createIn_tracing hf') (.lift_step rfl rfl ?_)
  rw [install_spawned hf, install_spawned hf', hconfig]
  cases binary.taken t.config with
  | error cause => exact .pure ⟨_, rfl, rfl⟩ _
  | ok m =>
    refine .ofExcept_step (.lift_step (hwrite hf _ _) (hwrite hf' _ _) ?_)
    refine .lift_step (hread hf _) (hread hf' _) ?_
    refine (compute_spawned hf hf' hconfig m).weaken fun x x' hx => ?_
    obtain ⟨slot, hx, hx'⟩ := hx
    exact ⟨.tracing slot, hx, hx'⟩

end

/-- Where foreign engines of one make are, a binary does the same. -/
theorem executeIn_spawned {side : EngineId → Prop}
    (h : ((foreignAt index).get s).Alike side ((foreignAt index).get s')) (binary : Guest.Binary) :
    Coupled (Spawned index s s') s s' (executeIn budget go index binary).run
      (executeIn budget go' index binary).run := by
  rcases h.makes with ⟨e, e', hf, hf', hsize, -⟩ | ⟨t, t', hf, hf', hconfig, -⟩
  · intro r t hrun
    rw [executeIn_scripted hf] at hrun
    cases hrun
    refine ⟨_, executeIn_scripted hf' binary, _, rfl, ?_⟩
    rw [hsize]
  · exact executeIn_tracing hf hf' hconfig binary

end

end EngineHost
