import EngineHost.Proofs.Decoding
import EngineHost.Proofs.Tracer.Coupling
import EngineHost.Proofs.Tracer.Replies
import Mathlib.Data.List.Induction
/-
The log stream and the trace tell of the same calls.  A host that writes down
what it is asked for shows, at every moment of a run, each answered call of the
guest followed by its item at the listener, in the order of the calls, and
nothing else.  Where the run ends with a fault, the host was asked once more: an
entry that refused the call, or the listener that refused the item.  A trace
that comes out of the run is written from the same items.
-/
namespace EngineHost

/-! ## Hosts that keep a record -/

/-- Something that an engine asked of its host, and the answer. -/
inductive Exchange where
  | entered (entry : EntryPoint) (id : EngineId) (name : String) (call : RawCall)
      (answer : Except BindingFault Int32)
  | delivered (entry : LogEntry) (id : EngineId) (item : ByteArray)
      (answer : Except BindingFault Unit)

namespace Exchange

def item? : Exchange → Option ByteArray
  | .delivered _ _ item _ => some item
  | .entered .. => none

end Exchange

/-- A host that does what another one does, and writes it down. -/
def Host.recorded {σ : Type} (host : Host σ) : Host (σ × List Exchange) where
  enter entry id name call := fun x =>
    (host.enter entry id name call x.1).map fun answer =>
      (answer.1, (answer.2, x.2 ++ [.entered entry id name call answer.1]))
  deliver entry id item := fun x =>
    (host.deliver entry id item x.1).map fun answer =>
      (answer.1, (answer.2, x.2 ++ [.delivered entry id item answer.1]))

/-- The same place, in a world with something beside it. -/
def Place.first {σ α β : Type} (here : Place σ α) : Place (σ × β) α where
  get x := here.get x.1
  set a x := (here.set a x.1, x.2)
  get_set a x := here.get_set a x.1
  set_set a b x := by rw [here.set_set]

section

variable {σ : Type} {host : Host σ} {here : Place σ Tracer} {id : EngineId}

theorem recorded_enter_eq_some {entry : EntryPoint} {name : String} {call : RawCall}
    {answer : Except BindingFault Int32} {x y : σ × List Exchange}
    (h : host.recorded.enter entry id name call x = some (answer, y)) :
    y.2 = x.2 ++ [.entered entry id name call answer] := by
  obtain ⟨found, -, ⟨⟩⟩ := Option.map_eq_some_iff.1 h
  rfl

theorem recorded_deliver_eq_some {entry : LogEntry} {item : ByteArray}
    {answer : Except BindingFault Unit} {x y : σ × List Exchange}
    (h : host.recorded.deliver entry id item x = some (answer, y)) :
    y.2 = x.2 ++ [.delivered entry id item answer] := by
  obtain ⟨found, -, ⟨⟩⟩ := Option.map_eq_some_iff.1 h
  rfl

/-- The record does not get in the way of anything. -/
theorem hostsAlike_recorded (slot : TracerSlot) :
    HostsAlike (fun s (x : σ × List Exchange) => x.1 = s) id id slot host host.recorded := by
  constructor
  · intro name b _ args s x hx r t hrun
    exact ⟨_, Option.map_eq_some_iff.2 ⟨(r, t), by rw [hx, hrun], rfl⟩, rfl⟩
  · intro entry _ item s x hx r t hrun
    exact ⟨_, Option.map_eq_some_iff.2 ⟨(r, t), by rw [hx, hrun], rfl⟩, rfl⟩

theorem placesAlike_first :
    PlacesAlike (fun s (x : σ × List Exchange) => x.1 = s) id here here.first := by
  constructor
  · intro s x hx
    subst hx
    exact .refl
  · intro s x slot hx
    subst hx
    rfl

/-- Every execution has its record. -/
theorem Tracer.compute_recorded {budget : Nat} {s t : σ} {r : Except EngineError ByteArray}
    (h : (Tracer.compute budget host here id).run s = some (r, t)) :
    ∃ log, (Tracer.compute budget host.recorded here.first id).run (s, []) =
      some (r, (t, log)) := by
  obtain ⟨⟨_, log⟩, hrun, rfl⟩ :=
    Tracer.compute_coupled hostsAlike_recorded placesAlike_first budget s (s, []) rfl r t h
  exact ⟨log, hrun⟩

end

/-! ## The record of a talk -/

/-- The exchanges about a call that was answered and heard. -/
def Reply.exchanges (id : EngineId) (entry : LogEntry) (k : Nat) (r : Reply) : List Exchange := [
  .entered r.binding.entry id r.name (marshal id r.binding.entry.path r.args) (.ok r.value),
  .delivered entry id (r.item k).json.toUTF8 (.ok ())]

def exchangesOf (id : EngineId) (entry : LogEntry) (talk : List Reply) : List Exchange :=
  (talk.mapIdx (Reply.exchanges id entry)).flatten

section

variable {id : EngineId} {entry : LogEntry}

theorem exchangesOf_concat (talk : List Reply) (r : Reply) :
    exchangesOf id entry (talk ++ [r]) =
      exchangesOf id entry talk ++ r.exchanges id entry talk.length := by
  rw [exchangesOf, List.mapIdx_append, List.mapIdx_cons, List.mapIdx_nil, Nat.zero_add,
    List.flatten_append, List.flatten_singleton, exchangesOf]

/-- What the listener is shown are the items of the talk. -/
theorem items_exchangesOf (talk : List Reply) :
    (exchangesOf id entry talk).filterMap Exchange.item? =
      (itemsOf talk).map fun item => item.json.toUTF8 := by
  induction talk using List.reverseRecOn with
  | nil => rfl
  | append_singleton talk r ih =>
    rw [exchangesOf_concat, itemsOf_concat, List.filterMap_append, ih, List.map_append]
    rfl

end

section

variable {σ : Type} {host : Host σ} {config : TracerConfig} {plan : Plan} {linked : List Linked}
  {entry : LogEntry} {s : σ} {phase : Phase} {talk : List Reply}
  (hm : plan.module.flaw? = none)
  (hlink : link config plan.bindings plan.module = .ok linked)
  (haccepted : plan.bindings.Accepted) (hlistener : plan.listener = some entry)

include hm hlink haccepted hlistener

/-- At every moment the record holds the exchanges of the talk. -/
theorem Spoken.record {x : Moment (σ × List Exchange)}
    (h : Spoken host.recorded config plan linked (s, []) phase talk x) :
    x.world.2 = exchangesOf plan.engine entry talk := by
  induction h with
  | start | alone => rfl
  | ready _ _ _ ih => exact ih
  | inside _ ih => exact ih
  | @told _ talk _ args _ trace _ _ _ l b value h hl hbound hanswered hheard ih =>
    have hitem := itemOf_eq hm hlink haccepted h (h.calls hm hlink haccepted) hl hbound value
    rw [hitem] at hheard
    rw [exchangesOf_concat, ← ih, Reply.exchanges]
    cases hheard with
    | unarmed _ hnone =>
      rw [hlistener] at hnone
      cases hnone
    | armed harmed hdeliver =>
      cases hlistener.symm.trans harmed
      show _ = _ ++ [_, _]
      rw [recorded_deliver_eq_some hdeliver, recorded_enter_eq_some hanswered,
        List.append_assoc]
      rfl

end

/-! ## Ends of a run -/

section

variable {σ : Type} (host : Host σ) (config : TracerConfig) (plan : Plan) (entry : LogEntry)
  (s : σ)

/-- The guest was told this much, and no more. -/
def Talked (talk : List Reply) : Prop :=
  talk = [] ∨ ∃ linked phase x, link config plan.bindings plan.module = .ok linked ∧
    Spoken host config plan linked s phase talk x

/-- The guest is about to make a call of a bound import. -/
def Calls (talk : List Reply) (name : String) (b : Binding) (args : List Guest.Value) : Prop :=
  ∃ linked phase index m trace t l, link config plan.bindings plan.module = .ok linked ∧
    Spoken host config plan linked s phase talk ⟨.host index args m, trace, t⟩ ∧
    linked[index]? = some l ∧ l.name = name ∧ l.definition = .bound b

/-- The ends that a run can come to, with what the guest was told until then,
what is handed back, and what the host has on record. -/
inductive Concluded : List Reply → Except EngineError ByteArray → List Exchange → Prop where
  | completed {linked : List Linked} {talk : List Reply} {m : Guest.Machine} {trace : Trace} {t : σ}
      (hlink : link config plan.bindings plan.module = .ok linked)
      (h : Spoken host config plan linked s .running talk ⟨.ended .returned m, trace, t⟩) :
      Concluded talk (.ok trace.payload) (exchangesOf plan.engine entry talk)
  | stopped {talk : List Reply} (status : TraceStatus) (h : Talked host config plan s talk) :
      Concluded talk (.ok status.payload) (exchangesOf plan.engine entry talk)
  | failed {talk : List Reply} {e : EngineError} (hown : ∀ cause, e ≠ .fault cause)
      (h : Talked host config plan s talk) :
      Concluded talk (.error e) (exchangesOf plan.engine entry talk)
  /-- An entry failed.  Nothing was shown for its call. -/
  | refused {talk : List Reply} {name : String} {b : Binding} {args : List Guest.Value}
      (cause : BindingFault) (h : Calls host config plan s talk name b args) :
      Concluded talk (.error (.fault cause)) (exchangesOf plan.engine entry talk ++
        [.entered b.entry plan.engine name (marshal plan.engine b.entry.path args) (.error cause)])
  /-- The listener failed on the item of the last call. -/
  | unheard {talk : List Reply} {name : String} {b : Binding} {args : List Guest.Value}
      (value : Int32) (cause : BindingFault) (h : Calls host config plan s talk name b args) :
      Concluded talk (.error (.fault cause)) (exchangesOf plan.engine entry talk ++
        [.entered b.entry plan.engine name (marshal plan.engine b.entry.path args) (.ok value),
          .delivered entry plan.engine
            (Reply.item talk.length ⟨name, b, args, value⟩).json.toUTF8 (.error cause)])

end

section

variable {σ : Type} {host : Host σ} {config : TracerConfig} {plan : Plan} {linked : List Linked}
  {entry : LogEntry} {s : σ} {t u : σ × List Exchange} {phase : Phase} {talk : List Reply}
  (hm : plan.module.flaw? = none)
  (hlink : link config plan.bindings plan.module = .ok linked)
  (haccepted : plan.bindings.Accepted) (hlistener : plan.listener = some entry)

omit hm haccepted hlistener in
include hlink in
theorem Spoken.talked {s : σ} {x : Moment σ} (h : Spoken host config plan linked s phase talk x) :
    Talked host config plan s talk := .inr ⟨linked, phase, x, hlink, h⟩

include hm hlink haccepted hlistener

/-- Where a guest stops there is a fault and its record, or nothing more than the
moment itself. -/
theorem Spoken.stops {x : Moment (σ × List Exchange)} {stage : Stage}
    (h : Spoken host.recorded config plan linked (s, []) phase talk x)
    (hstops : Stops host.recorded plan linked x stage u) :
    (∃ cause, stage.why = .faulted cause ∧
        Concluded host.recorded config plan entry (s, []) talk (.error (.fault cause)) u.2) ∨
      ((∀ cause, stage.why ≠ .faulted cause) ∧ u = x.world ∧ stage.trace = x.trace ∧
        (stage.why = .returned → x.step = .ended .returned stage.machine)) := by
  have hrecord := h.record hm hlink haccepted hlistener
  cases hstops with
  | ended how m trace t =>
    cases how with
    | returned => exact .inr ⟨nofun, rfl, rfl, fun _ => rfl⟩
    | trapped | outOfFuel => exact .inr ⟨nofun, rfl, rfl, nofun⟩
  | unlinked args m trace t hl => exact .inr ⟨nofun, rfl, rfl, nofun⟩
  | halted args m trace t hl hhalting => exact .inr ⟨nofun, rfl, rfl, nofun⟩
  | @faulted index args m trace trace' t u l b cause hl hbound hserved =>
    refine .inl ⟨cause, rfl, ?_⟩
    have hcalls : Calls host.recorded config plan (s, []) talk l.name b args :=
      ⟨linked, phase, index, m, trace, t, l, hlink, h, hl, rfl, hbound⟩
    cases hserved with
    | refused hanswered =>
      rw [recorded_enter_eq_some hanswered, hrecord]
      exact .refused cause hcalls
    | @unheard value _ _ v _ hanswered harmed hdeliver =>
      cases hlistener.symm.trans harmed
      have hitem := itemOf_eq hm hlink haccepted h (h.calls hm hlink haccepted) hl hbound value
      rw [recorded_deliver_eq_some hdeliver, recorded_enter_eq_some hanswered, hrecord, hitem,
        List.append_assoc]
      exact .unheard value cause hcalls

/-- What a stopped guest hands back, short of a trace. -/
theorem Spoken.concluded {x : Moment (σ × List Exchange)} {stage : Stage}
    (h : Spoken host.recorded config plan linked (s, []) phase talk x)
    (hstops : Stops host.recorded plan linked x stage u) :
    (∀ status, stage.why.status? = .ok (some status) →
      Concluded host.recorded config plan entry (s, []) talk (.ok status.payload) u.2) ∧
    (∀ cause, stage.why = .faulted cause →
      Concluded host.recorded config plan entry (s, []) talk (.error (.fault cause)) u.2) := by
  have hrecord := h.record hm hlink haccepted hlistener
  constructor
  · intro status hstatus
    rcases h.stops hm hlink haccepted hlistener hstops with ⟨cause, hfault, _⟩ | ⟨_, rfl, _, _⟩
    · rw [hfault] at hstatus
      cases hstatus
    · rw [hrecord]
      exact .stopped status (h.talked hlink)
  · intro cause hfault
    rcases h.stops hm hlink haccepted hlistener hstops with ⟨_, hfault', hend⟩ | ⟨hnot, _⟩
    · cases hfault.symm.trans hfault'
      exact hend
    · exact absurd hfault (hnot cause)

/-- The talk of a start function that has returned. -/
theorem Begins.talked {machine : Guest.Machine} {trace : Trace}
    (h : Begins host.recorded config plan linked (s, []) machine trace t) :
    ∃ talk, Talked host.recorded config plan (s, []) talk ∧
      t.2 = exchangesOf plan.engine entry talk ∧
      ∀ ready f, prepareMemory config plan machine trace = .ok ready →
        plan.module.entry? config = some f →
        Spoken host.recorded config plan linked (s, []) .running talk
          ⟨Guest.enter (plan.module.env config) f ready.1, ready.2, t⟩ := by
  cases h with
  | without hfilled hnone =>
    exact ⟨[], .inl rfl, rfl, fun ready f hready hentry => .alone hfilled hnone hready hentry⟩
  | @returned _ f stage _ hfilled hstart hrun hreturned =>
    obtain ⟨x, hmoves, hstops⟩ := hrun
    obtain ⟨talk, hspoken⟩ := (Spoken.start hfilled hstart).moves hmoves
    rw [List.nil_append] at hspoken
    have hrecord := hspoken.record hm hlink haccepted hlistener
    rcases hspoken.stops hm hlink haccepted hlistener hstops with
      ⟨_, hfault, _⟩ | ⟨_, rfl, htrace, hstep⟩
    · rw [hreturned] at hfault
      cases hfault
    · obtain ⟨step, trace, world⟩ := x
      cases hstep hreturned
      cases htrace
      exact ⟨talk, hspoken.talked hlink, hrecord, fun ready f hready hentry =>
        hspoken.ready hready hentry⟩

/-- A start function that has not returned. -/
theorem instantiate_concluded {budget : Nat} {stage : Stage}
    (hstart : instantiate budget host.recorded config plan linked (s, []) = some (stage, u)) :
    ∃ talk, (∀ status, stage.why.status? = .ok (some status) →
        Concluded host.recorded config plan entry (s, []) talk (.ok status.payload) u.2) ∧
      (∀ cause, stage.why = .faulted cause →
        Concluded host.recorded config plan entry (s, []) talk (.error (.fault cause)) u.2) := by
  rcases instantiate_eq_some_iff.1 hstart with ⟨_, rfl, rfl⟩ |
    ⟨memory, hfill, ⟨_, rfl, rfl⟩ | ⟨f, hfunction, hrun⟩⟩
  · exact ⟨[], fun status _ => .stopped status (.inl rfl), nofun⟩
  · exact ⟨[], nofun, nofun⟩
  · obtain ⟨x, hmoves, hstops⟩ := runGuest_runs hrun
    obtain ⟨talk, hspoken⟩ :=
      (Spoken.start (filled?_of_placeSegments hfill) hfunction).moves hmoves
    exact ⟨[] ++ talk, hspoken.concluded hm hlink haccepted hlistener hstops⟩

omit hlink in
theorem carryOut_concluded {budget : Nat} {r : Except EngineError Execution}
    (h : (carryOut budget host.recorded config plan).run (s, []) = some (r, u)) :
    ∃ talk, Concluded host.recorded config plan entry (s, []) talk (r.map (·.payload)) u.2 := by
  have hbegins {budget : Nat} {linked : List Linked} {stage : Stage} {t : σ × List Exchange}
      (hstart : instantiate budget host.recorded config plan linked (s, []) = some (stage, t))
      (hreturned : stage.why = .returned) :
      Begins host.recorded config plan linked (s, []) stage.machine stage.trace t := by
    rcases instantiate_cases hstart with ⟨_, hbegins⟩ | ⟨hstopped, _⟩
    · exact hbegins
    · exact absurd hreturned hstopped
  cases carryOut_eq_some_iff.1 h with
  | unlinked hlink =>
    obtain ⟨_, rfl⟩ := link_error hlink
    exact ⟨[], .failed nofun (.inl rfl)⟩
  | stoppedEarly hlink hstart hstatus =>
    obtain ⟨talk, hstopped, -⟩ := instantiate_concluded hm hlink haccepted hlistener hstart
    exact ⟨talk, hstopped _ hstatus⟩
  | faultedEarly hlink hstart hfault =>
    obtain ⟨talk, -, hfaulted⟩ := instantiate_concluded hm hlink haccepted hlistener hstart
    exact ⟨talk, hfaulted _ hfault⟩
  | unready hlink hstart hreturned hready =>
    obtain ⟨talk, htalked, hrecord, -⟩ :=
      (hbegins hstart hreturned).talked hm hlink haccepted hlistener
    obtain ⟨⟨_, _, _, rfl⟩, -⟩ := prepareMemory_error hready
    exact ⟨talk, hrecord ▸ .failed nofun htalked⟩
  | noEntry hlink hstart hreturned =>
    obtain ⟨talk, htalked, hrecord, -⟩ :=
      (hbegins hstart hreturned).talked hm hlink haccepted hlistener
    exact ⟨talk, hrecord ▸ .failed nofun htalked⟩
  | faulted hlink hstart hreturned hready hentry hrun hfault =>
    obtain ⟨talk, -, -, hspoken⟩ := (hbegins hstart hreturned).talked hm hlink haccepted hlistener
    obtain ⟨x, hmoves, hstops⟩ := runGuest_runs hrun
    obtain ⟨more, hspoken⟩ := (hspoken _ _ hready hentry).moves hmoves
    exact ⟨talk ++ more, (hspoken.concluded hm hlink haccepted hlistener hstops).2 _ hfault⟩
  | @finished linked stage final ready f status _ _ hlink hstart hreturned hready hentry hrun hstatus =>
    obtain ⟨talk, -, -, hspoken⟩ := (hbegins hstart hreturned).talked hm hlink haccepted hlistener
    obtain ⟨x, hmoves, hstops⟩ := runGuest_runs hrun
    obtain ⟨more, hspoken⟩ := (hspoken _ _ hready hentry).moves hmoves
    refine ⟨talk ++ more, ?_⟩
    cases status with
    | some status =>
      exact (hspoken.concluded hm hlink haccepted hlistener hstops).1 status hstatus
    | none =>
      have hreturned := Stopped.status?_eq_none_iff.1 hstatus
      have hrecord := hspoken.record hm hlink haccepted hlistener
      rcases hspoken.stops hm hlink haccepted hlistener hstops with
        ⟨_, hfault, _⟩ | ⟨_, rfl, htrace, hstep⟩
      · rw [hreturned] at hfault
        cases hfault
      · obtain ⟨step, trace, world⟩ := x
        cases hstep hreturned
        cases htrace
        exact hrecord ▸ .completed hlink hspoken

end

/-! ## Tracers as they come to be -/

/-- Tracers that come out of their own operations. -/
inductive Tracer.Made : Tracer → Prop where
  | blank (config : TracerConfig) : Made { config }
  | created {t : Tracer} (id : EngineId) (h : Made t) : Made (t.create id)
  | installed {t t' : Tracer} {id : EngineId} {binary : Guest.Binary} (h : Made t)
      (hinstall : t.install id binary = .ok t') : Made t'
  | bound {t t' : Tracer} {id : EngineId} {name : String} {binding : Binding} (h : Made t)
      (hbind : t.bind? id name binding = some t') : Made t'
  | listened {t t' : Tracer} {id : EngineId} {entry : LogEntry} (h : Made t)
      (hlisten : t.listen? id entry = some t') : Made t'
  /-- An image was captured, patched or left behind by an execution. -/
  | imaged {t : Tracer} {id : EngineId} {slot : TracerSlot} (image : Option ByteArray)
      (patches : List Patch) (h : Made t) (hslot : t.slots[id]? = some slot) :
      Made (t.setSlot id { slot with image, patches })

/-- What is installed has been checked, and what is bound was accepted. -/
structure TracerSlot.Sound (slot : TracerSlot) : Prop where
  checked : ∀ m, slot.module = some m → m.flaw? = none
  accepted : slot.bindings.Accepted

theorem TracerSlot.sound_blank : ({} : TracerSlot).Sound := by
  refine ⟨nofun, fun name b hb => ?_⟩
  rw [Std.ExtTreeMap.getElem?_empty] at hb
  cases hb

theorem Tracer.sound_setSlot {t : Tracer} {id k : EngineId} {new slot : TracerSlot}
    (hslot : (t.setSlot k new).slots[id]? = some slot) (hnew : new.Sound)
    (hold : ∀ {slot}, t.slots[id]? = some slot → slot.Sound) : slot.Sound := by
  rw [slots_setSlot] at hslot
  split at hslot
  case isTrue =>
    cases hslot
    exact hnew
  case isFalse => exact hold hslot

theorem Tracer.Made.sound {t : Tracer} (h : t.Made) {id : EngineId} {slot : TracerSlot}
    (hslot : t.slots[id]? = some slot) : slot.Sound := by
  induction h generalizing id slot with
  | blank =>
    rw [Std.ExtTreeMap.getElem?_empty] at hslot
    cases hslot
  | created id' _ ih => exact sound_setSlot hslot TracerSlot.sound_blank ih
  | installed _ hinstall ih =>
    obtain ⟨old, m, hold, hcompile, -, rfl⟩ := install_eq_ok_iff.1 hinstall
    refine sound_setSlot hslot ⟨fun m' hm' => ?_, (ih hold).accepted⟩ ih
    cases hm'
    exact Guest.Binary.flaw?_of_compile hcompile
  | @bound _ _ _ name binding _ hbind ih =>
    obtain ⟨haccepts, old, hold, rfl⟩ := bind?_eq_some_iff.1 hbind
    refine sound_setSlot hslot ⟨(ih hold).checked, fun name' b hb => ?_⟩ ih
    rw [Std.ExtTreeMap.getElem?_insert] at hb
    split at hb
    case isTrue =>
      cases hb
      exact haccepts
    case isFalse => exact (ih hold).accepted name' b hb
  | listened _ hlisten ih =>
    obtain ⟨old, hold, rfl⟩ := listen?_eq_some_iff.1 hlisten
    exact sound_setSlot hslot ⟨(ih hold).checked, (ih hold).accepted⟩ ih
  | imaged _ _ _ hold ih => exact sound_setSlot hslot ⟨(ih hold).checked, (ih hold).accepted⟩ ih

/-! ## The log stream -/

/-- The calls in a payload are written from these fragments. -/
def WritesCalls (payload : ByteArray) (fragments : List String) : Prop :=
  ∃ memory changes : String, payload = (Text.JsonText.object [
    ("global_memory", memory),
    ("memory_changes", changes),
    ("logs", "[" ++ ",".intercalate fragments ++ "]")]).toUTF8

section

variable {σ : Type} (host : Host σ) (config : TracerConfig) (plan : Plan) (entry : LogEntry)
  (s : σ)

/-- What an execution that began in `s` handed back, and what its host has on
record, tell of the same calls. -/
structure Logged (r : Except EngineError ByteArray) (log : List Exchange) : Prop where
  ends : ∃ talk, Concluded host.recorded config plan entry (s, []) talk r log
  /-- At every moment there is one item for each call that was answered, and it
  has been shown. -/
  follows : ∀ linked phase talk x, link config plan.bindings plan.module = .ok linked →
    Spoken host.recorded config plan linked (s, []) phase talk x →
      x.trace.calls = itemsOf talk ∧ x.world.2 = exchangesOf plan.engine entry talk ∧
        (∀ reply ∈ talk, reply.Fits plan.bindings) ∧
        (talk.length < UInt32.size → ∀ (k : Nat) (item : HostCall),
          x.trace.calls[k]? = some item → item.index.toNat = k)
  written : ∀ payload, r = .ok payload → TraceResult.decode payload = .ok (.success payload) →
    ∃ fragments, WritesCalls payload fragments ∧
      log.filterMap Exchange.item? = fragments.map String.toUTF8

end

section

variable {σ : Type} {host : Host σ} {config : TracerConfig} {plan : Plan} {entry : LogEntry}
  {s : σ} {talk : List Reply} {log : List Exchange}

/-- An execution that came to its end, and whose engine is gone by then. -/
theorem Concluded.gone {payload : ByteArray}
    (h : Concluded host config plan entry s talk (.ok payload) log) {e : EngineError}
    (hown : ∀ cause, e ≠ .fault cause) : Concluded host config plan entry s talk (.error e) log := by
  cases h with
  | completed hlink h => exact .failed hown (h.talked hlink)
  | stopped _ h => exact .failed hown h

/-- A trace is written from the items that the listener was shown. -/
theorem Concluded.written {s : σ × List Exchange} (hm : plan.module.flaw? = none)
    (haccepted : plan.bindings.Accepted) {payload : ByteArray}
    (h : Concluded host.recorded config plan entry s talk (.ok payload) log)
    (htrace : TraceResult.decode payload = .ok (.success payload)) :
    ∃ fragments, WritesCalls payload fragments ∧
      log.filterMap Exchange.item? = fragments.map String.toUTF8 := by
  cases h with
  | @completed linked _ m trace t hlink h =>
    have hcalls : trace.calls = itemsOf talk := h.calls hm hlink haccepted
    refine ⟨(itemsOf talk).map HostCall.json,
      ⟨Text.JsonText.array (trace.globalMemory.map Region.json),
        Text.JsonText.array (trace.memoryChanges.map Region.json), ?_⟩, ?_⟩
    · rw [← hcalls]
      rfl
    · rw [items_exchangesOf, List.map_map]
      rfl
  | stopped status _ =>
    rw [TraceResult.decode_status] at htrace
    cases htrace

end

/-- The items that the listener is shown are the calls of the trace. -/
theorem log_stream_tells_trace {σ : Type} {host : Host σ} {here : Place σ Tracer} {id : EngineId}
    {s t : σ} {slot : TracerSlot} {m : Guest.Module} {entry : LogEntry} {budget : Nat}
    {r : Except EngineError ByteArray} (hmade : (here.get s).Made)
    (hslot : (here.get s).slots[id]? = some slot) (hmodule : slot.module = some m)
    (hlistener : slot.listener = some entry)
    (hrun : (Tracer.compute budget host here id).run s = some (r, t)) :
    ∃ log, (Tracer.compute budget host.recorded here.first id).run (s, []) = some (r, (t, log)) ∧
      Logged host (here.get s).config (slot.planOf id m) entry s r log := by
  obtain ⟨log, hrecorded⟩ := Tracer.compute_recorded hrun
  have hsound := hmade.sound hslot
  have hm : (slot.planOf id m).module.flaw? = none := hsound.checked m hmodule
  have haccepted : (slot.planOf id m).bindings.Accepted := hsound.accepted
  have hplan : (here.first.get (s, ([] : List Exchange))).plan id = .ok (slot.planOf id m) :=
    Tracer.plan_eq_ok_iff.2 ⟨slot, m, hslot, hmodule, rfl⟩
  obtain ⟨done, ⟨u, log'⟩, hcarried, hdone⟩ := Tracer.compute_cases hplan hrecorded
  obtain ⟨talk, hend⟩ := carryOut_concluded hm haccepted hlistener hcarried
  -- Putting the memory back is no exchange.
  have hconcluded : Concluded host.recorded (here.get s).config (slot.planOf id m) entry (s, [])
      talk r log := by
    rcases hdone with ⟨rfl, heq | ⟨tracer, heq⟩⟩ | ⟨⟨execution, rfl⟩, rfl, heq⟩
    · cases heq
      exact hend
    · cases heq
      exact hend
    · cases heq
      exact hend.gone nofun
  refine ⟨log, hrecorded, ⟨⟨talk, hconcluded⟩, ?_, ?_⟩⟩
  · intro linked phase talk x hlink hspoken
    have hcalls := hspoken.calls hm hlink haccepted
    refine ⟨hcalls, hspoken.record hm hlink haccepted hlistener,
      (hspoken.typed hm hlink haccepted).2, fun hlength k item hitem => ?_⟩
    rw [hcalls] at hitem
    exact index_itemsOf hlength hitem
  · intro payload heq htrace
    subst heq
    exact hconcluded.written hm haccepted htrace

/-! ## A guest that adds up -/

/-- A host without a dispatcher. -/
def Host.alone {σ : Type} : Host σ where
  enter entry id name call :=
    match entry.target with
    | .dispatcher => pure (.error (.unknownEngine id))
    | .standalone _ answer => pure (answer id name call)
  deliver entry id item :=
    match entry with
    | .dispatcher => pure (.error (.unknownEngine id))
    | .standalone _ answer => pure (answer id item)

/-- The start function calls an import with narrow arguments, and the entry export
one with a wide argument. -/
def addingGuest : Guest.Module where
  imports := [
    ⟨"env", "sum", .func { params := [.i32, .i32], results := [.i32] }⟩,
    ⟨"env", "total", .func { params := [.i64], results := [.i32] }⟩]
  funcs := #[
    { code := [.const32 0xFFFFFFFF, .const32 3, .call 0, .drop] },
    { code := [.const64 5, .call 1, .drop] }]
  exports := [⟨"main", .func, 3⟩]
  start := some 2

theorem addingGuest_compiles :
    (Guest.Binary.described addingGuest).compile = .ok addingGuest := by
  with_unfolding_all rfl

def addingNarrow : Binding := { shape := .i32 2, entry := .summing .i32 }

def addingWide : Binding := { shape := .i64 1, entry := .summing .i64 }

def addingSlot : TracerSlot where
  module := some addingGuest
  bindings := ((∅ : Bindings).insert "sum" addingNarrow).insert "total" addingWide
  listener := some .accepting

/-- An engine before it is given the guest. -/
def addingBare : Tracer :=
  (((({} : Tracer).create ⟨1⟩).setSlot ⟨1⟩
    { bindings := (∅ : Bindings).insert "sum" addingNarrow }).setSlot ⟨1⟩
    { bindings := addingSlot.bindings }).setSlot ⟨1⟩
    { bindings := addingSlot.bindings, listener := addingSlot.listener }

def addingTracer : Tracer := addingBare.setSlot ⟨1⟩ addingSlot

theorem addingTracer_made : addingTracer.Made := by
  have hslot {t : Tracer} {slot : TracerSlot} : (t.setSlot ⟨1⟩ slot).slots[(⟨1⟩ : EngineId)]? =
      some slot := by rw [Tracer.slots_setSlot, if_pos rfl]
  have hbind (t : Tracer) (slot : TracerSlot) (name : String) (b : Binding)
      (haccepts : b.entry.accepts b.shape = true) (h : (t.setSlot ⟨1⟩ slot).Made) :
      ((t.setSlot ⟨1⟩ slot).setSlot ⟨1⟩
        { slot with bindings := slot.bindings.insert name b }).Made :=
    h.bound (Tracer.bind?_eq_some_iff.2 ⟨haccepts, slot, hslot, rfl⟩)
  have hcreated : ({} : Tracer).create ⟨1⟩ |>.Made := (Tracer.Made.blank {}).created ⟨1⟩
  have hbound := hbind _ _ "total" addingWide rfl (hbind _ _ "sum" addingNarrow rfl hcreated)
  have hbare : addingBare.Made := hbound.listened (Tracer.listen?_eq_some_iff.2 ⟨_, hslot, rfl⟩)
  exact hbare.installed
    (Tracer.install_eq_ok_iff.2 ⟨_, addingGuest, hslot, addingGuest_compiles, by rfl, rfl⟩)

/-- Both calls are in the trace, and the listener has seen both. -/
theorem addingTracer_logged :
    addingTracer.Made ∧ addingTracer.slots[(⟨1⟩ : EngineId)]? = some addingSlot ∧
      addingSlot.module = some addingGuest ∧ addingSlot.listener = some .accepting ∧
      ∃ payload t log,
        (Tracer.compute 40 Host.alone Place.whole ⟨1⟩).run addingTracer = some (.ok payload, t) ∧
        TraceResult.decode payload = .ok (.success payload) ∧
        (Tracer.compute 40 Host.alone.recorded Place.whole.first ⟨1⟩).run (addingTracer, []) =
          some (.ok payload, (t, log)) ∧
        (log.filterMap Exchange.item?).map String.fromUTF8? = [
          some "\x7b\"index\":0,\"import\":\"sum\",\"params\":[-1,3],\"result\":2\x7d",
          some "\x7b\"index\":1,\"import\":\"total\",\"params\":[5],\"result\":5\x7d"] ∧
        Logged Host.alone {} (addingSlot.planOf ⟨1⟩ addingGuest) .accepting addingTracer
          (.ok payload) log := by
  have hslot : addingTracer.slots[(⟨1⟩ : EngineId)]? = some addingSlot := by
    rw [addingTracer, Tracer.slots_setSlot, if_pos rfl]
  have hrecorded : ((Tracer.compute 40 Host.alone.recorded Place.whole.first ⟨1⟩).run
      (addingTracer, [])).map (fun x => (x.1.toOption.map TraceResult.isStatus,
        (x.2.2.filterMap Exchange.item?).map String.fromUTF8?)) = some (some false, [
          some "\x7b\"index\":0,\"import\":\"sum\",\"params\":[-1,3],\"result\":2\x7d",
          some "\x7b\"index\":1,\"import\":\"total\",\"params\":[5],\"result\":5\x7d"]) := by
    decide +kernel
  have hplain : ((Tracer.compute 40 Host.alone Place.whole ⟨1⟩).run addingTracer).isSome := by
    decide +kernel
  obtain ⟨⟨r, t⟩, hrun⟩ := Option.isSome_iff_exists.1 hplain
  obtain ⟨log, hlog, hlogged⟩ := log_stream_tells_trace addingTracer_made hslot rfl rfl hrun
  rw [hlog, Option.map_some, Option.some.injEq, Prod.mk.injEq, Option.map_eq_some_iff] at hrecorded
  obtain ⟨⟨payload, hpayload, hstatus⟩, hitems⟩ := hrecorded
  obtain rfl := toOption_eq_some_iff.1 hpayload
  refine ⟨addingTracer_made, hslot, rfl, rfl, payload, t, log, hrun, ?_, hlog, hitems, hlogged⟩
  unfold TraceResult.decode
  rw [hstatus]
  rfl

end EngineHost
