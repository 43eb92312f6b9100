import EngineHost.Proofs.Tracer.Coupling
import EngineHost.Proofs.Tracer.Rebuilding
import EngineHost.Proofs.Tracer.Requests
/-
Accounts: what a tracing engine should have recorded, from what has been asked
of it.  An engine stands on a bench, with a record of every request in the order
in which they were responded to.  The host's entries are routines.  They make
requests of their own in the middle of a run, and these are on record too.

A request that runs a guest works with what the engine held when it was made, and
it is on record only when it is over.  So each record has the number of those
that were there when its request came.
-/
namespace EngineHost

namespace Tracer

/-- A request that has been responded to, and how many others had been before it
was made. -/
structure Record where
  id : EngineId
  request : Request
  response : Response
  since : Nat

/-- What a record does to the account of the changes to the engine it is of. -/
def Record.enter (x : Record) (changes : List Region) : List Region :=
  match x.request, x.response with
  | .install _, .done => []
  | .patch offset length data, .done => changes ++ [{ offset, length, data }]
  | _, _ => changes

/-- The patches that an engine has accepted since a module was last installed. -/
def accepted (id : EngineId) (records : List Record) : List Region :=
  (records.filter (·.id = id)).foldl (fun changes x => x.enter changes) []

end Tracer

open Tracer (Request Response Record accepted)

/-- A tracing engine with a record of all that was asked of it.  Outside there
is whatever those who ask keep for themselves. -/
structure Bench (ω : Type) where
  tracer : Tracer
  records : List Record := []
  outside : ω

def Bench.place {ω : Type} : Place (Bench ω) Tracer where
  get b := b.tracer
  set t b := { b with tracer := t }
  get_set _ _ := rfl
  set_set _ _ _ := rfl

/-- What is done by those who use an engine, a caller of it or an entry that a
guest has called.  They make requests, and they keep things of their own. -/
inductive Routine (ω α : Type) where
  | done (value : α)
  | ask (id : EngineId) (request : Request) (next : Response → Routine ω α)
  | look (next : ω → Routine ω α)
  | keep (outside : ω) (next : Routine ω α)

namespace Routine

variable {ω α : Type}

/-- Go through a routine, given how requests are responded to. -/
def play (respond : EngineId → Request → Turn (Bench ω) Response) : Routine ω α → Turn (Bench ω) α
  | .done value => pure value
  | .ask id request next => do
    let response ← respond id request
    (next response).play respond
  | .look next => do (next (← get).outside).play respond
  | .keep outside next => do
    modify fun b => { b with outside }
    next.play respond

end Routine

/-- A host whose entries are routines. -/
structure Hosting (ω : Type) where
  enter : EntryPoint → EngineId → String → RawCall → Routine ω (Except BindingFault Int32)
  deliver : LogEntry → EngineId → ByteArray → Routine ω (Except BindingFault Unit)

namespace Hosting

variable {ω : Type}

def host (h : Hosting ω) (respond : EngineId → Request → Turn (Bench ω) Response) :
    Host (Bench ω) where
  enter entry id name call := (h.enter entry id name call).play respond
  deliver entry id item := (h.deliver entry id item).play respond

/-- Respond to a request and put it on record, with requests nested less deep
than `depth`. -/
def respondWithin (budget : Nat) (h : Hosting ω) :
    Nat → EngineId → Request → Turn (Bench ω) Response
  | 0, _, _ => fun _ => none
  | depth + 1, id, request => do
    let since := (← get).records.length
    let response ← request.perform budget (h.host (h.respondWithin budget depth)) Bench.place id
    modify fun b => { b with records := b.records ++ [{ id, request, response, since }] }
    return response

end Hosting

/-! ## What a host keeps up -/

/-- Whatever the entries do, it stays true. -/
structure Host.Keeps {σ : Type} (host : Host σ) (Q : σ → Prop) : Prop where
  enter : ∀ {entry id name call s r t}, Q s → host.enter entry id name call s = some (r, t) → Q t
  deliver : ∀ {entry id item s r t}, Q s → host.deliver entry id item s = some (r, t) → Q t

section

variable {σ : Type} {host : Host σ} {Q : σ → Prop} {s t : σ}

/-- Side by side with itself, a host does the same in the same world. -/
theorem Host.Keeps.hostsAlike (h : host.Keeps Q) (id : EngineId) (slot : TracerSlot) :
    HostsAlike (fun s x => x = s ∧ Q s) id id slot host host where
  enter name b _ args := by
    intro s x hx r t hrun
    obtain ⟨rfl, hs⟩ := hx
    exact ⟨t, hrun, rfl, h.enter hs hrun⟩
  deliver entry _ item := by
    intro s x hx r t hrun
    obtain ⟨rfl, hs⟩ := hx
    exact ⟨t, hrun, rfl, h.deliver hs hrun⟩

theorem Host.Keeps.carryOut (h : host.Keeps Q) {id : EngineId} {slot : TracerSlot}
    {m : Guest.Module} {config : TracerConfig} {budget : Nat} {r : Except EngineError Execution}
    (hs : Q s)
    (hrun : (EngineHost.carryOut budget host config (slot.planOf id m)).run s = some (r, t)) :
    Q t := by
  obtain ⟨_, _, _, ht⟩ := carryOut_coupled (h.hostsAlike id slot) budget s s ⟨rfl, hs⟩ r t hrun
  exact ht

theorem Host.Keeps.initialMemory (h : host.Keeps Q) {id : EngineId} {slot : TracerSlot}
    {m : Guest.Module} {config : TracerConfig} {budget : Nat} {r : Except EngineError ByteArray}
    (hs : Q s)
    (hrun : (EngineHost.initialMemory budget host config (slot.planOf id m)).run s = some (r, t)) :
    Q t := by
  obtain ⟨_, _, _, ht⟩ :=
    initialMemory_coupled (h.hostsAlike id slot) budget s s ⟨rfl, hs⟩ r t hrun
  exact ht

end

/-- The changes in a trace are the patches of the plan. -/
theorem carryOut_changes {σ : Type} {host : Host σ} {config : TracerConfig} {plan : Plan}
    {budget : Nat} {s t : σ} {payload : ByteArray} {memory : Option ByteArray}
    (htrace : TraceResult.decode payload = .ok (.success payload))
    (hcarried : (carryOut budget host config plan).run s = some (.ok { payload, memory }, t)) :
    ∃ trace : Trace, payload = trace.payload ∧
      trace.memoryChanges = plan.patches.map Region.ofPatch := by
  obtain ⟨linked, stage, ready, f, final, u, -, hstart, hreturned, hready, -, hrun, -, rfl⟩ :=
    carryOut_trace htrace hcarried
  have hfresh : stage.trace.memoryChanges = [] := by
    rcases instantiate_cases hstart with ⟨_, hbegins⟩ | ⟨hstopped, _⟩
    · rw [hbegins.trace]
    · exact absurd hreturned hstopped
  obtain ⟨-, -, hchanges, -⟩ := prepareMemory_eq_ok hready
  rw [hfresh, List.nil_append] at hchanges
  refine ⟨final.trace, rfl, ?_⟩
  rw [hrun.trace]
  exact hchanges

theorem Region.ofPatch_make {offset length : UInt32} {data : ByteArray} {p : Patch}
    (h : Patch.make offset length data = .ok p) : ofPatch p = ⟨offset, length, data⟩ := by
  obtain ⟨_, hlength, ⟨⟩⟩ := bind_eq_ok_iff.1 h
  unfold checkLength at hlength
  split at hlength
  case isTrue hsize => simp [ofPatch, make, ← hsize]
  case isFalse => cases hlength

/-! ## Entering records -/

namespace Tracer

theorem accepted_append {id : EngineId} {records : List Record} {x : Record} :
    accepted id (records ++ [x]) =
      if x.id = id then x.enter (accepted id records) else accepted id records := by
  unfold accepted
  rw [List.filter_append]
  by_cases hid : x.id = id
  · simp [hid]
  · simp [hid]

/-- What the changes should be, for every engine with a module. -/
def Recorded (tracer : Tracer) (records : List Record) : Prop :=
  ∀ id slot, tracer.slots[id]? = some slot → slot.module.isSome →
    slot.patches.map Region.ofPatch = accepted id records

/-- If it came to a trace, the changes in it are those that had been accepted
when the computation was asked for. -/
def Record.Told (x : Record) (records : List Record) : Prop :=
  x.since ≤ records.length ∧
    ∀ payload, x.request = .compute → x.response = .bytes payload →
      TraceResult.decode payload = .ok (.success payload) →
        ∃ trace : Trace, payload = trace.payload ∧
          trace.memoryChanges = accepted x.id (records.take x.since)

section

variable {tracer : Tracer} {records records' : List Record} {x : Record}

/-- One engine's slot is replaced, and the request that did it goes on record. -/
theorem Recorded.enter (h : Recorded tracer records) {id : EngineId} {slot : TracerSlot}
    (hid : x.id = id)
    (hslot : slot.module.isSome →
      slot.patches.map Region.ofPatch = x.enter (accepted id records)) :
    Recorded (tracer.setSlot id slot) (records ++ [x]) := by
  subst hid
  intro k slot' hslot' hmodule
  rw [slots_setSlot] at hslot'
  rw [accepted_append]
  split at hslot'
  case isTrue hk =>
    cases hslot'
    subst hk
    rw [if_pos rfl]
    exact hslot hmodule
  case isFalse hk =>
    rw [if_neg hk]
    exact h k slot' hslot' hmodule

/-- A record that changes no account. -/
theorem Recorded.pass (h : Recorded tracer records) (henter : ∀ changes, x.enter changes = changes) :
    Recorded tracer (records ++ [x]) := by
  intro k slot hslot hmodule
  rw [accepted_append, henter, ite_self]
  exact h k slot hslot hmodule

/-- A slot with the same module and patches. -/
theorem Recorded.setSlot (h : Recorded tracer records) {id : EngineId} {slot slot' : TracerSlot}
    (hslot : tracer.slots[id]? = some slot) (hmodule : slot'.module = slot.module)
    (hpatches : slot'.patches = slot.patches) : Recorded (tracer.setSlot id slot') records := by
  intro k slot'' hslot' hsome
  rw [slots_setSlot] at hslot'
  split at hslot'
  case isTrue hk =>
    cases hslot'
    subst hk
    rw [hpatches]
    exact h id slot hslot (hmodule ▸ hsome)
  case isFalse => exact h k slot'' hslot' hsome

theorem Record.Told.grow (h : x.Told records) (hgrown : records <+: records') :
    x.Told records' := by
  obtain ⟨hsince, htold⟩ := h
  refine ⟨Nat.le_trans hsince hgrown.length_le, fun payload hrequest hresponse htrace => ?_⟩
  obtain ⟨rest, rfl⟩ := hgrown
  rw [List.take_append_of_le_length hsince]
  exact htold payload hrequest hresponse htrace

end

end Tracer

namespace Bench

variable {ω : Type}

/-- The engine has recorded what its account says, and so did all traces. -/
structure Sound (b : Bench ω) : Prop where
  recorded : Tracer.Recorded b.tracer b.records
  told : ∀ x ∈ b.records, x.Told b.records

theorem Sound.fresh {config : TracerConfig} {outside : ω} :
    Sound { tracer := { config }, outside } where
  recorded id slot hslot := by
    change (∅ : EngineTable TracerSlot)[id]? = some slot at hslot
    rw [Std.ExtTreeMap.getElem?_empty] at hslot
    cases hslot
  told _ hx := absurd hx List.not_mem_nil

/-- Everything is still in order, and there may be more on record. -/
structure Since (b b' : Bench ω) : Prop where
  sound : b'.Sound
  grown : b.records <+: b'.records

theorem Since.refl {b : Bench ω} (h : b.Sound) : b.Since b := ⟨h, List.prefix_refl _⟩

theorem Since.trans {b b' b'' : Bench ω} (h : b.Since b') (h' : b'.Since b'') : b.Since b'' :=
  ⟨h'.sound, h.grown.trans h'.grown⟩

/-- A record is entered, and the engine is what the record says. -/
theorem Since.enter {b t : Bench ω} (h : b.Since t) {x : Record} {tracer : Tracer}
    (hsince : x.since = b.records.length)
    (hrecorded : Tracer.Recorded tracer (t.records ++ [x]))
    (htold : ∀ payload, x.request = .compute → x.response = .bytes payload →
      TraceResult.decode payload = .ok (.success payload) →
        ∃ trace : Trace, payload = trace.payload ∧
          trace.memoryChanges = accepted x.id b.records) :
    b.Since { t with tracer, records := t.records ++ [x] } := by
  have hgrown : b.records <+: t.records ++ [x] := h.grown.trans (List.prefix_append _ _)
  refine ⟨⟨hrecorded, fun y hy => ?_⟩, hgrown⟩
  rcases List.mem_append.1 hy with hy | hy
  · exact (h.sound.told y hy).grow (List.prefix_append _ _)
  · cases List.mem_singleton.1 hy
    refine ⟨hsince ▸ hgrown.length_le, ?_⟩
    rw [hsince, ← List.prefix_iff_eq_take.1 hgrown]
    exact htold

section

variable {host : Host (Bench ω)} {budget : Nat} {id : EngineId} {b t : Bench ω}

theorem Sound.capturing (h : b.Sound) (hhost : host.Keeps b.Since)
    {result : Except EngineError TracerSlot}
    (hcapture : Tracer.Capturing budget host place id b result t) :
    b.Since t ∧ ∀ slot, result = .ok slot → t.tracer.slots[id]? = some slot := by
  cases hcapture with
  | unknown | uninstalled => exact ⟨.refl h, nofun⟩
  | present hslot =>
    refine ⟨.refl h, fun slot hresult => ?_⟩
    cases hresult
    exact hslot
  | failed _ _ _ hrun | vanished _ _ _ hrun => exact ⟨hhost.initialMemory (.refl h) hrun, nofun⟩
  | captured _ _ _ hrun hafter =>
    have hsince := hhost.initialMemory (.refl h) hrun
    refine ⟨⟨⟨hsince.sound.recorded.setSlot hafter rfl rfl, hsince.sound.told⟩, hsince.grown⟩,
      fun slot hresult => ?_⟩
    cases hresult
    exact Tracer.slots_setSlot.trans (if_pos rfl)

/-- What a computation leaves behind, and what its trace says if it comes to
one. -/
theorem Sound.computing (h : b.Sound) (hhost : host.Keeps b.Since)
    {result : Except EngineError ByteArray}
    (hcompute : Tracer.Computing budget host place id b result t) :
    b.Since t ∧ ∀ payload, result = .ok payload →
      TraceResult.decode payload = .ok (.success payload) →
        ∃ trace : Trace, payload = trace.payload ∧ trace.memoryChanges = accepted id b.records := by
  -- What the plan has recorded is what the account said when it was made.
  have hplanned {plan : Plan} (hplan : b.tracer.plan id = .ok plan) {budget : Nat} {t : Bench ω}
      {r : Except EngineError Execution}
      (hrun : (carryOut budget host b.tracer.config plan).run b = some (r, t)) :
      b.Since t ∧ ∀ done, r = .ok done →
        TraceResult.decode done.payload = .ok (.success done.payload) →
          ∃ trace : Trace, done.payload = trace.payload ∧
            trace.memoryChanges = accepted id b.records := by
    obtain ⟨slot, m, hslot, hmodule, rfl⟩ := Tracer.plan_eq_ok_iff.1 hplan
    refine ⟨hhost.carryOut (.refl h) hrun, fun done hdone htrace => ?_⟩
    subst hdone
    obtain ⟨trace, hpayload, hchanges⟩ := carryOut_changes htrace hrun
    exact ⟨trace, hpayload, hchanges.trans (h.recorded id slot hslot (by rw [hmodule]; rfl))⟩
  cases hcompute with
  | unplanned => exact ⟨.refl h, nofun⟩
  | failed hplan hrun | vanished hplan hrun => exact ⟨(hplanned hplan hrun).1, nofun⟩
  | unkept hplan hrun =>
    obtain ⟨hsince, htold⟩ := hplanned hplan hrun
    refine ⟨hsince, fun payload hresult => ?_⟩
    cases hresult
    exact htold _ rfl
  | kept hplan hrun hslot =>
    obtain ⟨hsince, htold⟩ := hplanned hplan hrun
    refine ⟨⟨⟨hsince.sound.recorded.setSlot hslot rfl rfl, hsince.sound.told⟩, hsince.grown⟩,
      fun payload hresult => ?_⟩
    cases hresult
    exact htold _ rfl

/-- Once a request has been made, and its record entered, everything is in order
again. -/
theorem Sound.responded (h : b.Sound) (hhost : host.Keeps b.Since) {request : Request}
    {response : Response}
    (hrun : request.perform budget host place id b = some (response, t)) :
    b.Since { t with
      records := t.records ++ [{ id, request, response, since := b.records.length }] } := by
  cases request with
  | create =>
    obtain ⟨rfl, rfl⟩ := Tracer.perform_create_iff.1 hrun
    exact (Since.refl h).enter rfl (h.recorded.enter rfl nofun) nofun
  | install binary =>
    rcases Tracer.perform_install_iff.1 hrun with ⟨tracer, hinstall, rfl, rfl⟩ | ⟨e, -, rfl, rfl⟩
    · obtain ⟨slot, m, -, -, -, rfl⟩ := Tracer.install_eq_ok_iff.1 hinstall
      exact (Since.refl h).enter rfl (h.recorded.enter rfl fun _ => rfl) nofun
    · exact (Since.refl h).enter rfl (h.recorded.pass fun _ => rfl) nofun
  | compute =>
    obtain ⟨result, hcompute, rfl⟩ := Tracer.perform_compute_iff.1 hrun
    obtain ⟨hsince, htold⟩ := h.computing hhost hcompute
    refine hsince.enter rfl (hsince.sound.recorded.pass fun _ => rfl) fun payload _ hbytes => ?_
    cases result with
    | error e => cases hbytes
    | ok =>
      cases hbytes
      exact htold payload rfl
  | snapshot =>
    obtain ⟨result, hcapture, rfl⟩ := Tracer.perform_snapshot_iff.1 hrun
    have hsince := (h.capturing hhost hcapture).1
    exact hsince.enter rfl (hsince.sound.recorded.pass fun _ => rfl) nofun
  | patch offset length data =>
    obtain ⟨result, hpatch, rfl⟩ := Tracer.perform_patch_iff.1 hrun
    cases hpatch with
    | mismatched => exact (Since.refl h).enter rfl (h.recorded.pass fun _ => rfl) nofun
    | uncaptured _ hcapture | outside _ hcapture =>
      have hsince := (h.capturing hhost hcapture).1
      exact hsince.enter rfl (hsince.sound.recorded.pass fun _ => rfl) nofun
    | @accepted p slot image u hmake hcapture =>
      obtain ⟨hsince, hslot⟩ := h.capturing hhost hcapture
      refine hsince.enter rfl (hsince.sound.recorded.enter rfl fun hmodule => ?_) nofun
      have hpatches := hsince.sound.recorded id slot (hslot slot rfl) hmodule
      rw [List.map_append, hpatches, List.map_singleton, Region.ofPatch_make hmake]
      rfl
  | bind name binding =>
    rcases Tracer.perform_bind_iff.1 hrun with ⟨tracer, hbind, rfl, rfl⟩ | ⟨-, rfl, rfl⟩
    · obtain ⟨-, slot, hslot, rfl⟩ := Tracer.bind?_eq_some_iff.1 hbind
      exact (Since.refl h).enter rfl (h.recorded.enter rfl fun hmodule =>
        h.recorded id slot hslot hmodule) nofun
    · exact (Since.refl h).enter rfl (h.recorded.pass fun _ => rfl) nofun
  | listen entry =>
    rcases Tracer.perform_listen_iff.1 hrun with ⟨tracer, hlisten, rfl, rfl⟩ | ⟨-, rfl, rfl⟩
    · obtain ⟨slot, hslot, rfl⟩ := Tracer.listen?_eq_some_iff.1 hlisten
      exact (Since.refl h).enter rfl (h.recorded.enter rfl fun hmodule =>
        h.recorded id slot hslot hmodule) nofun
    · exact (Since.refl h).enter rfl (h.recorded.pass fun _ => rfl) nofun

end

end Bench

/-! ## Whole routines -/

section

variable {ω α : Type}

/-- A routine keeps everything in order if the responses to its requests do. -/
theorem Routine.play_since {respond : EngineId → Request → Turn (Bench ω) Response}
    (hrespond : ∀ {id request b response t}, b.Sound →
      respond id request b = some (response, t) → b.Since t)
    {routine : Routine ω α} {b t : Bench ω} {value : α} (h : b.Sound)
    (hrun : routine.play respond b = some (value, t)) : b.Since t := by
  induction routine generalizing b with
  | done =>
    cases hrun
    exact .refl h
  | ask id request next ih =>
    obtain ⟨response, u, hasked, hrest⟩ := Turn.bind_eq_some_iff.1 hrun
    have hsince := hrespond h hasked
    exact hsince.trans (ih response hsince.sound hrest)
  | look next ih => exact ih b.outside h hrun
  | keep outside next ih =>
    have hsince := ih (b := { b with outside }) ⟨h.recorded, h.told⟩ hrun
    exact ⟨hsince.sound, hsince.grown⟩

theorem Hosting.respondWithin_since {budget depth : Nat} {hosting : Hosting ω} {id : EngineId}
    {request : Request} {b t : Bench ω} {response : Response} (h : b.Sound)
    (hrun : hosting.respondWithin budget depth id request b = some (response, t)) :
    b.Since t := by
  induction depth generalizing id request b response t with
  | zero => cases hrun
  | succ depth ih =>
    -- The entries are routines, and their requests are nested one less deep.
    have hhost : (hosting.host (hosting.respondWithin budget depth)).Keeps b.Since :=
      ⟨fun hs hrun => hs.trans (Routine.play_since ih hs.sound hrun),
        fun hs hrun => hs.trans (Routine.play_since ih hs.sound hrun)⟩
    obtain ⟨_, _, ⟨⟩, hrun⟩ := Turn.bind_eq_some_iff.1 hrun
    obtain ⟨_, u, hperform, hrun⟩ := Turn.bind_eq_some_iff.1 hrun
    cases hrun
    exact h.responded hhost hperform

end

/-- Every trace tells of the patches that had been accepted, since a module was
last installed, when its computation was asked for.  All of them are in it, once
each and in order, and nothing else.  This is so for every routine, and whatever
the entries ask of the engine while guests run. -/
theorem trace_tells_accepted_patches {ω α : Type} {budget depth : Nat} {hosting : Hosting ω}
    {config : TracerConfig} {outside : ω} {routine : Routine ω α} {value : α} {t : Bench ω}
    (hrun : routine.play (hosting.respondWithin budget depth) { tracer := { config }, outside } =
      some (value, t))
    {x : Record} (hx : x ∈ t.records) (hcompute : x.request = .compute) {payload : ByteArray}
    (hpayload : x.response = .bytes payload)
    (htrace : TraceResult.decode payload = .ok (.success payload)) :
    ∃ trace : Trace, payload = trace.payload ∧
      trace.memoryChanges = accepted x.id (t.records.take x.since) := by
  have hsince := Routine.play_since Hosting.respondWithin_since .fresh hrun
  exact (hsince.sound.told x hx).2 payload hcompute hpayload htrace

/-! ## A guest whose import patches it -/

/-- Its entry export calls its import once. -/
def tickingGuest : Guest.Module where
  imports := [⟨"env", "tick", .func { params := [.i32] }⟩]
  memories := [{ min := 0 }]
  funcs := #[{ code := [.const32 0, .call 0] }]
  exports := [⟨"main", .func, 1⟩, ⟨"memory", .memory, 0⟩]

/-- An entry that patches the engine it is called from, within the memory and
past its end. -/
def tickingHosting : Hosting Unit where
  enter _ id _ _ :=
    .ask id (.patch 0 0 .empty) fun _ =>
    .ask id (.patch 0 1 ⟨#[7]⟩) fun _ =>
    .done (.ok 0)
  deliver _ _ _ := .done (.ok ())

/-- Patch, and compute twice.  The second patch is past the end, and the third
one states another length than it has. -/
def tickingRoutine : Routine Unit Unit :=
  .ask ⟨1⟩ .create fun _ =>
  .ask ⟨1⟩ (.install (.described tickingGuest)) fun _ =>
  .ask ⟨1⟩ (.bind "tick" { shape := .notify 1, entry := .forShape (.notify 1) }) fun _ =>
  .ask ⟨1⟩ (.patch 0 0 .empty) fun _ =>
  .ask ⟨1⟩ (.patch 0 1 ⟨#[7]⟩) fun _ =>
  .ask ⟨1⟩ .compute fun _ =>
  .ask ⟨1⟩ (.patch 0 1 .empty) fun _ =>
  .ask ⟨1⟩ .compute fun _ =>
  .done ()

/-- The change that all accepted patches of the ticking guest are. -/
def tickingChange : Region := ⟨0, 0, .empty⟩

/-- Whether the last thing on record came to a trace, of so many of these
changes. -/
def Bench.endsWith {ω : Type} (b : Bench ω) (changes : List Region) : Bool :=
  match b.records.getLast? with
  | some ⟨id, .compute, .bytes payload, since⟩ =>
    decide (TraceResult.decode payload = .ok (.success payload) ∧
      accepted id (b.records.take since) = changes)
  | _ => false

theorem tickingRoutine_ends :
    (tickingRoutine.play (tickingHosting.respondWithin 20 2)
      { tracer := { config := {} }, outside := () }).any
        (fun p => p.2.endsWith [tickingChange, tickingChange]) = true := by
  decide +kernel

theorem endsWith_eq_true {ω : Type} {b : Bench ω} {changes : List Region}
    (h : b.endsWith changes = true) :
    ∃ x ∈ b.records, x.request = .compute ∧ ∃ payload, x.response = .bytes payload ∧
      TraceResult.decode payload = .ok (.success payload) ∧
      accepted x.id (b.records.take x.since) = changes := by
  unfold Bench.endsWith at h
  split at h
  case h_1 hlast =>
    obtain ⟨hdecode, hchanges⟩ := of_decide_eq_true h
    exact ⟨_, List.mem_of_getLast? hlast, rfl, _, rfl, hdecode, hchanges⟩
  case h_2 => cases h

/-- The second trace has the caller's patch and the one that was made in the
middle of the first computation.  The one made in the middle of its own comes
too late, and the four that were refused are in neither. -/
theorem tickingRoutine_told :
    ∃ t x payload trace,
      tickingRoutine.play (tickingHosting.respondWithin 20 2)
        { tracer := { config := {} }, outside := () } = some ((), t) ∧
      x ∈ t.records ∧ x.request = .compute ∧ x.response = .bytes payload ∧
      TraceResult.decode payload = .ok (.success payload) ∧ payload = Trace.payload trace ∧
      trace.memoryChanges = [tickingChange, tickingChange] := by
  obtain ⟨⟨_, t⟩, hrun, hends⟩ := (Option.any_eq_true _ _).1 tickingRoutine_ends
  obtain ⟨x, hx, hcompute, payload, hpayload, htrace, haccepted⟩ := endsWith_eq_true hends
  obtain ⟨trace, htold, hchanges⟩ :=
    trace_tells_accepted_patches hrun hx hcompute hpayload htrace
  exact ⟨t, x, payload, trace, hrun, hx, hcompute, hpayload, htrace, htold,
    hchanges.trans haccepted⟩

end EngineHost
