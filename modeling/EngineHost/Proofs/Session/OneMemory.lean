import EngineHost.Proofs.Memory
import EngineHost.Proofs.Session.Alike
import EngineHost.Proofs.Session.Coherence
import EngineHost.Proofs.Tracer.Operating
/-
A scripted engine and a tracing one with the same memory cannot be told apart by
looking at it and patching it.  Both do what a plain array of bytes does, call
by call, past the host and through a handle.

A tracing engine has no memory to look at until it has been asked for one.  The
first call that gets so far runs the start function of the guest, and what that
leaves is the memory.  Lengths are looked at before, so a call that is refused
for its length does not start anything.
-/
namespace EngineHost

/-! ## Calls on a memory -/

/-- How a call comes in: past the host, or through a handle. -/
inductive Door where
  | direct
  | handle

inductive MemoryCall where
  | snapshot (door : Door)
  | patch (door : Door) (offset length : UInt32) (data : ByteArray)
  /-- Ranges are read through handles only. -/
  | read (offset length : UInt32)

inductive MemoryReply where
  | bytes (bytes : ByteArray)
  | done
  | refused (cause : EngineError)

namespace MemoryCall

/-- The operation that makes a call on an engine, or on the handle with this
name. -/
def op (name : String) (site : Site) : MemoryCall → Op
  | .snapshot .direct => .foreign site.foreign (.memory site.id)
  | .snapshot .handle => .handle name .memory
  | .patch .direct offset length data => .foreign site.foreign (.patch site.id offset length data)
  | .patch .handle offset length data => .handle name (.patch offset length data)
  | .read offset length => .handle name (.read offset length)

def door : MemoryCall → Door
  | .snapshot door | .patch door _ _ _ => door
  | .read _ _ => .handle

/-- The answer that a reply is given as. -/
def answer (call : MemoryCall) : MemoryReply → Answer
  | .bytes bytes =>
    match call with
    | .read _ _ => .bytes bytes
    | _ => .memory bytes
  | .done => .ok
  | .refused cause =>
    match call.door with
    | .direct => .engineError cause
    | .handle => .hostError (.engine cause)

/-- What a call comes to, and the memory afterwards. -/
inductive Answered (mem : ByteArray) : MemoryCall → MemoryReply → ByteArray → Prop where
  | snapshot (door : Door) : Answered mem (.snapshot door) (.bytes mem) mem
  | patched (door : Door) {offset length : UInt32} {data after : ByteArray}
      (h : Patched mem offset length data (.ok ()) after) :
      Answered mem (.patch door offset length data) .done after
  | unpatched (door : Door) {offset length : UInt32} {data after : ByteArray} {cause : EngineError}
      (h : Patched mem offset length data (.error cause) after) :
      Answered mem (.patch door offset length data) (.refused cause) after
  | read {offset length : UInt32} {bytes : ByteArray} (h : Read mem offset length (.ok bytes)) :
      Answered mem (.read offset length) (.bytes bytes) mem
  | unread {offset length : UInt32} {cause : EngineError}
      (h : Read mem offset length (.error cause)) :
      Answered mem (.read offset length) (.refused cause) mem

/-- What calls come to, one after another. -/
inductive AllAnswered : ByteArray → List MemoryCall → List MemoryReply → ByteArray → Prop where
  | nil (mem : ByteArray) : AllAnswered mem [] [] mem
  | cons {mem next after : ByteArray} {call : MemoryCall} {reply : MemoryReply}
      {calls : List MemoryCall} {replies : List MemoryReply} (hcall : Answered mem call reply next)
      (hrest : AllAnswered next calls replies after) :
      AllAnswered mem (call :: calls) (reply :: replies) after

/-- The operations that make calls, with the answers that replies are given as. -/
def exchanged (name : String) (site : Site) (calls : List MemoryCall)
    (replies : List MemoryReply) : List (Op × Answer) :=
  (calls.zip replies).map fun (call, reply) => (call.op name site, call.answer reply)

section

variable {mem after after' : ByteArray}

theorem Answered.unique {call : MemoryCall} {reply reply' : MemoryReply}
    (h : Answered mem call reply after) (h' : Answered mem call reply' after') :
    reply = reply' ∧ after = after' := by
  cases h with
  | snapshot =>
    cases h'
    exact ⟨rfl, rfl⟩
  | patched _ h =>
    cases h' with
    | patched _ h' => exact ⟨rfl, (h.unique h').2⟩
    | unpatched _ h' => cases (h.unique h').1
  | unpatched _ h =>
    cases h' with
    | patched _ h' => cases (h.unique h').1
    | unpatched _ h' =>
      obtain ⟨⟨⟩, rfl⟩ := h.unique h'
      exact ⟨rfl, rfl⟩
  | read h =>
    cases h' with
    | read h' =>
      cases h.unique h'
      exact ⟨rfl, rfl⟩
    | unread h' => cases h.unique h'
  | unread h =>
    cases h' with
    | read h' => cases h.unique h'
    | unread h' =>
      cases h.unique h'
      exact ⟨rfl, rfl⟩

/-- An array of bytes replies in one way. -/
theorem AllAnswered.unique {calls : List MemoryCall} {replies replies' : List MemoryReply}
    (h : AllAnswered mem calls replies after) (h' : AllAnswered mem calls replies' after') :
    replies = replies' ∧ after = after' := by
  induction h generalizing replies' with
  | nil =>
    cases h'
    exact ⟨rfl, rfl⟩
  | cons hcall _ ih =>
    cases h' with
    | cons hcall' hrest' =>
      obtain ⟨rfl, rfl⟩ := hcall.unique hcall'
      obtain ⟨rfl, rfl⟩ := ih hrest'
      exact ⟨rfl, rfl⟩

end

end MemoryCall

section

variable {mem after : ByteArray} {offset length : UInt32}

/-- The reply that a result is. -/
def MemoryReply.ofExcept {α : Type} (reply : α → MemoryReply) : Except EngineError α → MemoryReply
  | .ok a => reply a
  | .error cause => .refused cause

theorem Patched.answered {data : ByteArray} {r : Except EngineError Unit} (door : Door)
    (h : Patched mem offset length data r after) :
    MemoryCall.Answered mem (.patch door offset length data) (.ofExcept (fun _ => .done) r)
      after := by
  cases r with
  | ok => exact .patched door h
  | error => exact .unpatched door h

theorem Read.answered {r : Except EngineError ByteArray} (h : Read mem offset length r) :
    MemoryCall.Answered mem (.read offset length) (.ofExcept .bytes r) mem := by
  cases r with
  | ok => exact .read h
  | error => exact .unread h

end

/-! ## Engines with a memory -/

section

variable (s : Session) (name : String) (site : Site) (mem : ByteArray)

/-- A scripted engine behind a handle, with a memory. -/
structure Session.Scripts : Prop where
  named : s.handles[name]? = some { id := site.id, foreign := site.foreign }
  there : ∃ e slot, ((foreignAt site.foreign).get s).scripted? = some e ∧
    e.slots[site.id]? = some slot ∧ slot.memory = mem

/-- A tracing engine behind a handle, with the image of a memory. -/
structure Session.Shows : Prop where
  named : s.handles[name]? = some { id := site.id, foreign := site.foreign }
  there : ∃ slot, s.slotAt? site = some slot ∧ slot.image = some mem

/-- A tracing engine behind a handle, with a binary and without an image.  Its
guest starts with a memory, and the host does not get in between: whatever it
does when the start function calls it, it keeps the handle, and it leaves the
memory to be captured. -/
structure Session.Opens (budget depth : Nat) : Prop where
  named : s.handles[name]? = some { id := site.id, foreign := site.foreign }
  quiet : s.events = []
  opens : ∃ tracer slot m u after, s.tracerAt? site.foreign = some tracer ∧
    s.slotAt? site = some slot ∧ slot.image = none ∧ slot.module = some m ∧
    (initialMemory budget (hostWithin budget depth) tracer.config (slot.planOf site.id m)).run s =
      some (.ok mem, u) ∧
    u.slotAt? site = some after ∧ after.image = none ∧
    u.handles[name]? = some { id := site.id, foreign := site.foreign }

/-- An engine with a memory, in one of these ways. -/
inductive Session.Exposes (budget depth : Nat) : Prop where
  | scripts (h : s.Scripts name site mem)
  | shows (h : s.Shows name site mem)
  | opens (h : s.Opens name site mem budget depth)

end

section

variable {s : Session} {name : String} {site : Site} {mem : ByteArray} {budget depth : Nat}

/-- Taking out events changes none of this. -/
theorem Session.Exposes.takeEvents (h : s.Exposes name site mem budget depth) :
    s.takeEvents.2.Exposes name site mem budget depth := by
  cases h with
  | scripts h => exact .scripts ⟨h.named, h.there⟩
  | shows h => exact .shows ⟨h.named, h.there⟩
  | opens h =>
    have hsame : s.takeEvents.2 = s := by
      show { s with events := [] } = s
      rw [← h.quiet]
    rw [hsame]
    exact .opens h

theorem Session.Exposes.named (h : s.Exposes name site mem budget depth) :
    s.handles[name]? = some { id := site.id, foreign := site.foreign } := by
  cases h with
  | scripts h => exact h.named
  | shows h => exact h.named
  | opens h => exact h.named

/-- The foreign engine is there. -/
theorem Session.Exposes.foreign (h : s.Exposes name site mem budget depth) :
    s.foreigns[site.foreign]? = some ((foreignAt site.foreign).get s) := by
  have hlines : (((foreignAt site.foreign).get s).lines? site.id).isSome := by
    have htracing {slot : TracerSlot} (hslot : s.slotAt? site = some slot) :
        (((foreignAt site.foreign).get s).lines? site.id).isSome := by
      rw [tracerAt?_eq_some_iff.1 (tracerAt?_of_slotAt? hslot)]
      exact Foreign.lines?_of_tracing (Tracer.slot_eq_ok_iff.2 (slotAt?_eq_some_iff.1 hslot))
    cases h with
    | scripts h =>
      obtain ⟨e, slot, hscripted, hslot, -⟩ := h.there
      have hlines := Foreign.lines?_of_scripted (Scripted.slot_eq_ok_iff.2 hslot)
      cases hforeign : (foreignAt site.foreign).get s with
      | scripted | pinned =>
        rw [hforeign] at hscripted
        cases hscripted
        exact hlines
      | tracing =>
        rw [hforeign] at hscripted
        cases hscripted
    | shows h =>
      obtain ⟨slot, hslot, -⟩ := h.there
      exact htracing hslot
    | opens h =>
      obtain ⟨_, slot, _, _, _, -, hslot, -⟩ := h.opens
      exact htracing hslot
  obtain ⟨f, hf⟩ := Option.isSome_iff_exists.1 (there_of_lines hlines)
  show _ = some (s.foreigns.getD site.foreign default)
  rw [Std.ExtTreeMap.getD_eq_getD_getElem?, hf, Option.getD_some]

/-! ## What the engines do -/

theorem Session.Opens.tracing (h : s.Opens name site mem budget depth) :
    (s.tracerAt? site.foreign).isSome := by
  obtain ⟨_, _, _, _, _, htracer, -⟩ := h.opens
  rw [htracer, Option.isSome_some]

theorem Session.Shows.tracing (h : s.Shows name site mem) :
    (s.tracerAt? site.foreign).isSome := by
  obtain ⟨slot, hslot, -⟩ := h.there
  rw [tracerAt?_of_slotAt? hslot, Option.isSome_some]

/-- A tracing engine has an image once it has been asked for one. -/
theorem Session.Opens.capturing (h : s.Opens name site mem budget depth) :
    ∃ slot t, Tracer.Capturing budget (hostWithin budget depth) (foreignAt site.foreign).tracer
        site.id s (.ok slot) t ∧
      slot.image = some mem ∧ t.Shows name site mem := by
  obtain ⟨tracer, slot, m, u, after, htracer, hslot, himage, hmodule, hrun, hafter, hnone, hnamed⟩ :=
    h.opens
  have hconfig : ((foreignAt site.foreign).tracer.get s).config = tracer.config := by
    rw [tracer_get, htracer, Option.getD_some]
  rw [← hconfig] at hrun
  have hcaptured := Tracer.Capturing.captured (slotAt?_eq_some_iff.1 hslot) himage hmodule hrun
    (slotAt?_eq_some_iff.1 hafter)
  rw [hnone] at hcaptured
  have hthere : (u.setSlotAt site { after with image := some mem }).slotAt? site =
      some { after with image := some mem } := by
    rw [slotAt?_setSlotAt, if_pos rfl]
  exact ⟨_, _, hcaptured, rfl, hnamed, _, hthere, rfl⟩

theorem Session.Shows.capturing (h : s.Shows name site mem) :
    ∃ slot t, Tracer.Capturing budget (hostWithin budget depth) (foreignAt site.foreign).tracer
        site.id s (.ok slot) t ∧
      slot.image = some mem ∧ t.Shows name site mem := by
  obtain ⟨slot, hslot, himage⟩ := h.there
  exact ⟨slot, s, .present (slotAt?_eq_some_iff.1 hslot) (by rw [himage]; rfl), himage, h⟩

section

variable {t : Session} {slot : TracerSlot}
  (htracing : (s.tracerAt? site.foreign).isSome)
  (hcapturing : Tracer.Capturing budget (hostWithin budget depth) (foreignAt site.foreign).tracer
    site.id s (.ok slot) t)
  (himage : slot.image = some mem) (hshows : t.Shows name site mem)

include htracing

include hcapturing himage

theorem snapshot_of_capturing :
    (Foreign.snapshot budget (hostWithin budget depth) (foreignAt site.foreign) site.id).run s =
      some (.ok mem, t) := by
  rw [snapshot_of_tracing htracing]
  refine Tracer.snapshot_eq_some_iff.2 ⟨_, hcapturing, ?_⟩
  rw [Except.map, himage, Option.getD_some]

include hshows

/-- A patch whose length is right is put into the image, or leaves it. -/
theorem patch_of_capturing {offset length : UInt32} {data : ByteArray} {p : Patch}
    (hmake : Patch.make offset length data = .ok p) :
    ∃ r after u, Patched mem offset length data r after ∧
      (Foreign.patch budget (hostWithin budget depth) (foreignAt site.foreign) site.id offset length
        data).run s = some (r, u) ∧ u.Shows name site after := by
  rw [patch_of_tracing htracing]
  rcases Patch.make_patched mem with ⟨cause, hrefused, _⟩ | ⟨p', hmade, happly⟩
  · cases hrefused.symm.trans hmake
  cases hmade.symm.trans hmake
  have hmem : slot.image.getD .empty = mem := by rw [himage, Option.getD_some]
  rcases happly with ⟨after, hpatched, happly⟩ | ⟨cause, hpatched, happly⟩
  · rw [← hmem] at happly
    have hset : (t.setSlotAt site { slot with
        image := some after, patches := slot.patches ++ [p] }).slotAt? site = some { slot with
          image := some after, patches := slot.patches ++ [p] } := by
      rw [Session.slotAt?_setSlotAt, if_pos rfl]
    exact ⟨_, after, _, hpatched,
      Tracer.patch_eq_some_iff.2 (.accepted hmake hcapturing happly), hshows.named, _, hset, rfl⟩
  · rw [← hmem] at happly
    exact ⟨_, mem, t, hpatched,
      Tracer.patch_eq_some_iff.2 (.outside hmake hcapturing happly), hshows⟩

end

theorem Foreign.scripted?_withScripted {f : Foreign} {e : Scripted} :
    (f.withScripted e).scripted? = some e := by
  cases f <;> rfl

section

variable {e : Scripted} {host : Host Session}
  (hscripted : ((foreignAt site.foreign).get s).scripted? = some e)

include hscripted

theorem snapshot_of_scripted :
    (Foreign.snapshot budget host (foreignAt site.foreign) site.id).run s =
      some (e.snapshot site.id, s) := by
  unfold Foreign.snapshot
  rw [Turn.run_lift_bind, Place.read_bind]
  cases hforeign : (foreignAt site.foreign).get s with
  | scripted | pinned =>
    rw [hforeign] at hscripted
    cases hscripted
    rfl
  | tracing =>
    rw [hforeign] at hscripted
    cases hscripted

theorem patch_of_scripted {offset length : UInt32} {data : ByteArray} :
    (Foreign.patch budget host (foreignAt site.foreign) site.id offset length data).run s =
      match e.patch site.id offset length data with
      | .ok e' => some (.ok (),
          s.setForeign site.foreign (((foreignAt site.foreign).get s).withScripted e'))
      | .error cause => some (.error cause, s) := by
  unfold Foreign.patch
  rw [Turn.run_lift_bind, Place.read_bind]
  cases hforeign : (foreignAt site.foreign).get s with
  | scripted | pinned =>
    rw [hforeign] at hscripted
    cases hscripted
    dsimp only
    cases e.patch site.id offset length data <;> rfl
  | tracing =>
    rw [hforeign] at hscripted
    cases hscripted

end

namespace Session.Exposes

/-- An engine with a memory shows it. -/
theorem snapshot (h : s.Exposes name site mem budget depth) :
    ∃ t, (Foreign.snapshot budget (hostWithin budget depth) (foreignAt site.foreign) site.id).run
        s = some (.ok mem, t) ∧ t.Exposes name site mem budget depth := by
  cases h with
  | scripts h =>
    obtain ⟨e, slot, hscripted, hslot, rfl⟩ := h.there
    refine ⟨s, ?_, .scripts h⟩
    rw [snapshot_of_scripted hscripted, Scripted.snapshot, Scripted.slot_eq_ok_iff.2 hslot]
    rfl
  | shows h =>
    obtain ⟨slot, t, hcapturing, himage, hshows⟩ := h.capturing
    exact ⟨t, snapshot_of_capturing h.tracing hcapturing himage, .shows hshows⟩
  | opens h =>
    obtain ⟨slot, t, hcapturing, himage, hshows⟩ := h.capturing
    exact ⟨t, snapshot_of_capturing h.tracing hcapturing himage, .shows hshows⟩

/-- An engine with a memory is patched as the memory is. -/
theorem patch (h : s.Exposes name site mem budget depth) (offset length : UInt32)
    (data : ByteArray) :
    ∃ r after t, Patched mem offset length data r after ∧
      (Foreign.patch budget (hostWithin budget depth) (foreignAt site.foreign) site.id offset length
        data).run s = some (r, t) ∧ t.Exposes name site after budget depth := by
  -- A length that is not that of the data stops a tracing engine at once.
  have htracing (htracing : (s.tracerAt? site.foreign).isSome)
      (hcapturing : ∃ slot t, Tracer.Capturing budget (hostWithin budget depth)
        (foreignAt site.foreign).tracer site.id s (.ok slot) t ∧ slot.image = some mem ∧
          t.Shows name site mem) :
      ∃ r after t, Patched mem offset length data r after ∧
        (Foreign.patch budget (hostWithin budget depth) (foreignAt site.foreign) site.id offset
          length data).run s = some (r, t) ∧ t.Exposes name site after budget depth := by
    rcases Patch.make_patched mem with ⟨cause, hmake, hpatched⟩ | ⟨p, hmake, -⟩
    · refine ⟨_, mem, s, hpatched, ?_, h⟩
      rw [patch_of_tracing htracing]
      exact Tracer.patch_eq_some_iff.2 (.mismatched hmake)
    · obtain ⟨slot, t, hcapturing, himage, hshows⟩ := hcapturing
      obtain ⟨r, after, u, hpatched, hrun, hshows⟩ :=
        patch_of_capturing htracing hcapturing himage hshows hmake
      exact ⟨r, after, u, hpatched, hrun, .shows hshows⟩
  cases h with
  | shows h => exact htracing h.tracing h.capturing
  | opens h => exact htracing h.tracing h.capturing
  | scripts h =>
    obtain ⟨e, slot, hscripted, hslot, rfl⟩ := h.there
    rw [patch_of_scripted hscripted]
    rcases Scripted.patch_patched hslot with ⟨after, hpatched, hpatch⟩ | ⟨cause, hpatched, hpatch⟩
    · rw [hpatch]
      have hset : ((foreignAt site.foreign).get (s.setForeign site.foreign
          (((foreignAt site.foreign).get s).withScripted
            (e.setSlot site.id { slot with memory := after })))).scripted? =
          some (e.setSlot site.id { slot with memory := after }) := by
        rw [foreign_get_setForeign, if_pos rfl, Foreign.scripted?_withScripted]
      have hafter : (e.setSlot site.id { slot with memory := after }).slots[site.id]? =
          some { slot with memory := after } := by rw [Scripted.slots_setSlot, if_pos rfl]
      exact ⟨_, after, _, hpatched, rfl, .scripts ⟨h.named, _, _, hset, hafter, rfl⟩⟩
    · rw [hpatch]
      exact ⟨_, _, s, hpatched, rfl, .scripts h⟩

end Session.Exposes

/-! ## What the answers are -/

theorem answerAttempt_of_run {α : Type} {t : Session} {action : Attempt Session α}
    {answer : α → Answer} {r : Except EngineError α} (h : action.run s = some (r, t)) :
    answerAttempt action answer s = some (match r with
      | .ok x => answer x
      | .error cause => .engineError cause, t) := by
  unfold answerAttempt
  rw [Turn.bind_eq_of_eq_some h]
  cases r <;> rfl

theorem answerHosted_ofEngine {α : Type} {t : Session} {action : Attempt Session α}
    {answer : α → Answer} {r : Except EngineError α} (h : action.run s = some (r, t)) :
    answerHosted (Hosted.ofEngine action) answer s = some (match r with
      | .ok x => answer x
      | .error cause => .hostError (.ofEngine cause), t) := by
  refine answerHosted_eq_some_iff.2 ⟨r.mapError HostError.ofEngine, ?_, by cases r <;> rfl⟩
  exact Turn.bind_pure_eq_some_iff.2 ⟨r, h, rfl⟩

theorem withForeign_of_there {index : Nat} {f : Foreign} {g : Foreign → Run Answer}
    (hf : s.foreigns[index]? = some f) : withForeign index g s = g f s := by
  unfold withForeign
  rw [Turn.get_bind, hf]

/-- What a memory refuses is no fault of the host's. -/
theorem Patched.mapError_ofEngine {offset length : UInt32} {data after : ByteArray}
    {r : Except EngineError Unit} (h : Patched mem offset length data r after) :
    r.mapError HostError.ofEngine = r.mapError HostError.engine := by
  cases h <;> rfl

theorem Read.mapError_ofEngine {offset length : UInt32} {r : Except EngineError ByteArray}
    (h : Read mem offset length r) :
    r.mapError HostError.ofEngine = r.mapError HostError.engine := by
  cases h <;> rfl

/-- With a length that is right, a patch through a handle is one past the host. -/
theorem Handle.patch_of_eq {h : Handle} {go : Callback → Run Int32} {offset length : UInt32}
    {data : ByteArray} (hlength : data.size = length.toNat) :
    h.patch budget go offset length data = Hosted.ofEngine
      (Foreign.patch budget (sessionHost go) (foreignAt h.foreign) h.id offset length data) := by
  unfold Handle.patch
  rw [checkLength_of_eq hlength]
  rfl

theorem Handle.patch_of_ne {h : Handle} {go : Callback → Run Int32} {offset length : UInt32}
    {data : ByteArray} (hlength : data.size ≠ length.toNat) :
    (h.patch budget go offset length data).run s =
      some (.error (.engine (.patchLengthMismatch length data.size)), s) := by
  unfold Handle.patch
  rw [checkLength_of_ne hlength]
  rfl

/-- A range is cut out of what a snapshot shows. -/
theorem Handle.read_of_snapshot {h : Handle} {go : Callback → Run Int32} {offset length : UInt32}
    {t : Session}
    (hrun : (Foreign.snapshot budget (sessionHost go) (foreignAt h.foreign) h.id).run s =
      some (.ok mem, t)) :
    (h.read budget go offset length).run s =
      some ((readAt mem offset length).mapError HostError.ofEngine, t) := by
  have hmemory : (h.memory budget go).run s = some (.ok mem, t) :=
    Turn.bind_pure_eq_some_iff.2 ⟨.ok mem, hrun, rfl⟩
  exact Turn.run_bind_eq_some_iff.2 (.inr ⟨mem, t, hmemory, rfl⟩)

namespace Session.Exposes

variable {offset length : UInt32} {data : ByteArray}

/-- A patch through a handle. -/
theorem patch_handle (h : s.Exposes name site mem budget depth) :
    ∃ r after t, Patched mem offset length data r after ∧
      (Handle.patch budget (Program.play (performWithin budget depth) note)
        { id := site.id, foreign := site.foreign } offset length data).run s =
          some (r.mapError HostError.engine, t) ∧ t.Exposes name site after budget depth := by
  by_cases hlength : data.size = length.toNat
  case neg => exact ⟨_, mem, s, .mismatched hlength, Handle.patch_of_ne hlength, h⟩
  case pos =>
    obtain ⟨r, after, t, hpatched, hrun, ht⟩ := h.patch offset length data
    refine ⟨r, after, t, hpatched, ?_, ht⟩
    rw [Handle.patch_of_eq hlength]
    exact Turn.bind_pure_eq_some_iff.2 ⟨r, hrun, hpatched.mapError_ofEngine.symm⟩

/-- A range read through a handle. -/
theorem read_handle (h : s.Exposes name site mem budget depth) :
    ∃ t, (Handle.read budget (Program.play (performWithin budget depth) note)
        { id := site.id, foreign := site.foreign } offset length).run s =
          some ((readAt mem offset length).mapError HostError.engine, t) ∧
      t.Exposes name site mem budget depth := by
  obtain ⟨t, hrun, ht⟩ := h.snapshot
  refine ⟨t, ?_, ht⟩
  rw [← readAt_read.mapError_ofEngine]
  exact Handle.read_of_snapshot hrun

/-- One call on an engine with a memory is answered as the memory replies. -/
theorem answers (h : s.Exposes name site mem budget depth) (call : MemoryCall) :
    ∃ reply after t, call.Answered mem reply after ∧
      performWithin budget (depth + 1) (call.op name site) s = some (call.answer reply, t) ∧
        t.Exposes name site after budget depth := by
  cases call with
  | snapshot door =>
    obtain ⟨t, hrun, ht⟩ := h.snapshot
    refine ⟨_, mem, t, .snapshot door, ?_, ht⟩
    cases door with
    | direct => exact (withForeign_of_there h.foreign).trans (answerAttempt_of_run hrun)
    | handle => exact (withHandle_of_named h.named).trans (answerHosted_ofEngine hrun)
  | patch door offset length data =>
    cases door with
    | direct =>
      obtain ⟨r, after, t, hpatched, hrun, ht⟩ := h.patch offset length data
      refine ⟨_, after, t, hpatched.answered .direct, ?_, ht⟩
      refine (withForeign_of_there h.foreign).trans ((answerAttempt_of_run hrun).trans ?_)
      cases r <;> rfl
    | handle =>
      obtain ⟨r, after, t, hpatched, hrun, ht⟩ := h.patch_handle
      refine ⟨_, after, t, hpatched.answered .handle, ?_, ht⟩
      refine (withHandle_of_named h.named).trans (answerHosted_eq_some_iff.2 ⟨_, hrun, ?_⟩)
      cases r <;> rfl
  | read offset length =>
    obtain ⟨t, hrun, ht⟩ := h.read_handle
    refine ⟨_, mem, t, readAt_read.answered, ?_, ht⟩
    refine (withHandle_of_named h.named).trans (answerHosted_eq_some_iff.2 ⟨_, hrun, ?_⟩)
    cases readAt mem offset length <;> rfl

/-- Calls on an engine with a memory are answered as the memory replies. -/
theorem answers_all (h : s.Exposes name site mem budget depth) (calls : List MemoryCall) :
    ∃ replies after t, MemoryCall.AllAnswered mem calls replies after ∧
      s.after budget (depth + 1) (calls.map (·.op name site)) =
        some (MemoryCall.exchanged name site calls replies, t) := by
  induction calls generalizing s mem with
  | nil => exact ⟨[], mem, s, .nil mem, rfl⟩
  | cons call calls ih =>
    obtain ⟨reply, next, t, hcall, hrun, ht⟩ := h.answers call
    obtain ⟨replies, after, u, hrest, hafter⟩ := ih ht.takeEvents
    refine ⟨reply :: replies, after, u, .cons hcall hrest, ?_⟩
    show (performWithin budget (depth + 1) (call.op name site) s >>= _) = _
    rw [hrun]
    show (t.takeEvents.2.after budget (depth + 1) _ >>= _) = _
    rw [hafter]
    rfl

end Session.Exposes

end

/-! ## The memory of a guest that just lies there -/

/-- A guest shows so many zero bytes, and nothing of it runs before its entry. -/
structure Guest.Module.Inert (m : Guest.Module) (size : Nat) : Prop where
  shows : m.showsMemory = true
  size_eq : (m.memories.head?.map (·.min)).getD 0 * Guest.pageSize = size
  segments : m.segments = []
  start : m.start = none

/-- Such a guest starts with its zeros, and the session stays as it is. -/
theorem Guest.Module.Inert.initialMemory {σ : Type} {s : σ} {host : Host σ} {budget size : Nat}
    {config : TracerConfig} {plan : Plan} {linked : List Linked} (h : plan.module.Inert size)
    (hlink : link config plan.bindings plan.module = .ok linked) :
    (EngineHost.initialMemory budget host config plan).run s =
      some (.ok (Bytes.zeros size), s) := by
  have hfilled : plan.filled? config = some (plan.module.machine config) :=
    filled?_of_placeSegments (by rw [h.segments]; rfl)
  rw [initialMemory_of_filled hlink hfilled h.start, if_pos h.shows, ← h.size_eq]
  rfl

theorem Guest.Module.Inert.opens {s : Session} {name : String} {site : Site} {budget depth size : Nat}
    {tracer : Tracer} {slot : TracerSlot} {m : Guest.Module} {linked : List Linked}
    (h : m.Inert size)
    (hnamed : s.handles[name]? = some { id := site.id, foreign := site.foreign })
    (hquiet : s.events = []) (htracer : s.tracerAt? site.foreign = some tracer)
    (hslot : s.slotAt? site = some slot) (himage : slot.image = none)
    (hmodule : slot.module = some m) (hlink : link tracer.config slot.bindings m = .ok linked) :
    s.Opens name site (Bytes.zeros size) budget depth := by
  have hplan : (slot.planOf site.id m).module.Inert size := h
  exact ⟨hnamed, hquiet, tracer, slot, m, s, slot, htracer, hslot, himage, hmodule,
    hplan.initialMemory hlink, hslot, himage, hnamed⟩

/-! ## The whole of it -/

/-- Every way to a memory takes the same ranges and refuses the others alike.
Engines with the same memory, scripted or tracing, then answer any sequence of
calls on it alike, and as an array of bytes would. -/
theorem one_memory_behind_all_engines :
    (∀ (size : Nat) (offset length : UInt32),
      Bounded size offset length (rangeIn size offset length)) ∧
    (∀ (e : Scripted) (id : EngineId) (slot : ScriptedSlot) (offset length : UInt32)
      (data : ByteArray), e.slots[id]? = some slot → data.size = length.toNat →
      Bounded slot.memory.size offset length (e.patch id offset length data)) ∧
    (∀ (budget depth : Nat) (s : Session) (name : String) (site : Site) (mem : ByteArray)
      (offset length : UInt32), s.Exposes name site mem budget depth →
      ∃ r t, Bounded mem.size offset length r ∧
        (Handle.read budget (Program.play (performWithin budget depth) note)
          { id := site.id, foreign := site.foreign } offset length).run s =
            some (r.mapError HostError.engine, t)) ∧
    ∀ (budget depth : Nat) (s₁ s₂ : Session) (name₁ name₂ : String) (site₁ site₂ : Site)
      (mem : ByteArray), s₁.Exposes name₁ site₁ mem budget depth →
      s₂.Exposes name₂ site₂ mem budget depth → ∀ calls : List MemoryCall,
      ∃ replies after t₁ t₂, MemoryCall.AllAnswered mem calls replies after ∧
        (∀ replies' after', MemoryCall.AllAnswered mem calls replies' after' →
          replies' = replies ∧ after' = after) ∧
        s₁.after budget (depth + 1) (calls.map (·.op name₁ site₁)) =
          some (MemoryCall.exchanged name₁ site₁ calls replies, t₁) ∧
        s₂.after budget (depth + 1) (calls.map (·.op name₂ site₂)) =
          some (MemoryCall.exchanged name₂ site₂ calls replies, t₂) := by
  refine ⟨fun _ _ _ => rangeIn_bounded,
    fun _ _ _ _ _ _ hslot hlength => Scripted.patch_bounded hslot hlength, ?_, ?_⟩
  · intro budget depth s name site mem offset length h
    obtain ⟨t, hrun, -⟩ := h.read_handle
    exact ⟨_, t, readAt_bounded mem, hrun⟩
  · intro budget depth s₁ s₂ name₁ name₂ site₁ site₂ mem h₁ h₂ calls
    obtain ⟨replies, after, t₁, hanswered, hafter₁⟩ := h₁.answers_all calls
    obtain ⟨replies', after', t₂, hanswered', hafter₂⟩ := h₂.answers_all calls
    obtain ⟨rfl, rfl⟩ := hanswered'.unique hanswered
    exact ⟨replies', after', t₁, t₂, hanswered, fun _ _ h => h.unique hanswered, hafter₁, hafter₂⟩

/-- A session with one handle, on a scripted engine with so much memory. -/
def storedSession (size : Nat) : Session where
  ids := { next := 2 }
  foreigns := (∅ : Std.ExtTreeMap Nat Foreign).insert 0
    (.scripted (Scripted.create { memorySize := size } ⟨1⟩))
  handles := (∅ : Std.ExtTreeMap String Handle).insert "a" { id := ⟨1⟩, foreign := 0 }

theorem Scripted.slots_create (e : Scripted) (id : EngineId) :
    (e.create id).slots[id]? = some { memory := Bytes.zeros e.memorySize } := by
  unfold create
  rw [slots_setSlot, if_pos rfl]

theorem storedSession_scripts (size : Nat) :
    (storedSession size).Scripts "a" ⟨0, ⟨1⟩⟩ (Bytes.zeros size) where
  named := Std.ExtTreeMap.getElem?_insert_self
  there := by
    refine ⟨Scripted.create { memorySize := size } ⟨1⟩, _, ?_, Scripted.slots_create _ _, rfl⟩
    show (((∅ : Std.ExtTreeMap Nat Foreign).insert 0 _).getD 0 default).scripted? = _
    rw [Std.ExtTreeMap.getD_insert_self]
    rfl

theorem idleGuest_opens (budget depth : Nat) :
    (heldSession { module := some (idleGuest 1) }).Opens "a" ⟨0, ⟨1⟩⟩
      (Bytes.zeros Guest.pageSize) budget depth :=
  Guest.Module.Inert.opens ⟨rfl, rfl, rfl, rfl⟩
    Std.ExtTreeMap.getElem?_insert_self rfl rfl rfl rfl rfl (by rfl)

/-- Patches at the end of the memory, over each other, past the end, and with a
length that is wrong. -/
def pageCalls : List MemoryCall := [
  .patch .handle 65535 1 ⟨#[7]⟩,
  .patch .direct 65534 2 ⟨#[8, 9]⟩,
  .patch .direct 65535 2 ⟨#[1, 2]⟩,
  .patch .handle 65536 0 .empty,
  .patch .handle 4294967295 4294967295 ⟨#[1]⟩,
  .read 65534 2,
  .snapshot .direct]

/-- A scripted engine with a page, and a guest with one. -/
theorem one_page_behind_both :
    Bounded Guest.pageSize 65535 1
      ((Scripted.create { memorySize := Guest.pageSize } ⟨1⟩).patch ⟨1⟩ 65535 1 ⟨#[7]⟩) ∧
    (∃ r t, Bounded Guest.pageSize 65535 2 r ∧
      (Handle.read 1 (Program.play (performWithin 1 0) note)
        { id := ⟨1⟩, foreign := 0 } 65535 2).run (storedSession Guest.pageSize) =
          some (r.mapError HostError.engine, t)) ∧
    ∃ replies after t₁ t₂,
      MemoryCall.AllAnswered (Bytes.zeros Guest.pageSize) pageCalls replies after ∧
      (∀ replies' after',
        MemoryCall.AllAnswered (Bytes.zeros Guest.pageSize) pageCalls replies' after' →
        replies' = replies ∧ after' = after) ∧
      (storedSession Guest.pageSize).after 1 1 (pageCalls.map (·.op "a" ⟨0, ⟨1⟩⟩)) =
        some (MemoryCall.exchanged "a" ⟨0, ⟨1⟩⟩ pageCalls replies, t₁) ∧
      (heldSession { module := some (idleGuest 1) }).after 1 1
          (pageCalls.map (·.op "a" ⟨0, ⟨1⟩⟩)) =
        some (MemoryCall.exchanged "a" ⟨0, ⟨1⟩⟩ pageCalls replies, t₂) := by
  have hsize : (Bytes.zeros Guest.pageSize).size = Guest.pageSize := Bytes.size_zeros _
  have hscripted : (storedSession Guest.pageSize).Exposes "a" ⟨0, ⟨1⟩⟩
      (Bytes.zeros Guest.pageSize) 1 0 := .scripts (storedSession_scripts _)
  have htracing : (heldSession { module := some (idleGuest 1) }).Exposes "a" ⟨0, ⟨1⟩⟩
      (Bytes.zeros Guest.pageSize) 1 0 := .opens (idleGuest_opens 1 0)
  obtain ⟨-, hpatch, hread, hsame⟩ := one_memory_behind_all_engines
  have hpatched := hpatch _ _ _ 65535 1 ⟨#[7]⟩ (Scripted.slots_create { memorySize := Guest.pageSize } ⟨1⟩) rfl
  have hranged := hread 1 0 _ "a" _ _ 65535 2 hscripted
  rw [hsize] at hpatched hranged
  exact ⟨hpatched, hranged, hsame 1 0 _ _ "a" "a" _ _ _ hscripted htracing pageCalls⟩

end EngineHost
