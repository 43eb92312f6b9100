import EngineHost.Proofs.Session.Computing
/-
Coherence of images.  What an engine shows as its memory is a memory of the
module that is installed, with every patch accepted since, exactly if the engine
was left alone while the execution ran that the image comes from.  Otherwise it
still is a memory of what that execution planned with, and this is not what the
engine has now.
-/
namespace EngineHost

/-- The memory comes from the installation that the engine is at, by the strokes
in the ledger.  The patches among these are those accepted since, and a byte
that one of them sets is as it was set, unless a later stroke covers it. -/
structure TracerSlot.Coherent (slot : TracerSlot) (config : TracerConfig) (l : Ledger)
    (memory : ByteArray) : Prop where
  installation : l.shown.map (·.installation) = some l.current.installation
  portrait : ∃ m, slot.module = some m ∧ Portrait config m l.strokes memory
  patches : patchesOf l.strokes = slot.patches
  visible : ∀ before p after i, l.strokes = before ++ .patch p :: after → p.Covers i →
    (∀ stroke ∈ after, ¬ stroke.Covers i) →
    Bytes.byteAt memory i = Bytes.byteAt p.data (i - p.offset.toNat)

section

variable {config : TracerConfig} {slot : TracerSlot} {l : Ledger} {q : Quiet} {memory : ByteArray}

/-- What is painted can be seen. -/
theorem Portrait.coherent {m : Guest.Module} (h : Portrait config m l.strokes memory)
    (hinstallation : l.shown.map (·.installation) = some l.current.installation)
    (hmodule : slot.module = some m) (hpatches : patchesOf l.strokes = slot.patches) :
    slot.Coherent config l memory := by
  refine ⟨hinstallation, ⟨m, hmodule, h⟩, hpatches, ?_⟩
  obtain ⟨base, -, hpaints⟩ := h
  intro before p after i heq hp hafter
  rw [heq] at hpaints
  exact hpaints.visible hp hafter

/-- An image is coherent exactly if the engine was left alone. -/
theorem Books.coherent_iff (h : Books config (some slot) l q) (himage : slot.image = some memory) :
    slot.Coherent config l memory ↔ q.image = true := by
  have hslot := h.slot slot rfl
  obtain ⟨shown, m, hshown, hinstalled, hportrait, hstrokes⟩ := hslot.shows memory himage
  have hbefore := h.image shown hshown
  constructor
  · intro hcoherent
    cases hquiet : q.image with
    | true => rfl
    | false =>
      rw [hquiet] at hbefore
      have hinstallation := hcoherent.installation
      rw [hshown, Option.map_some, Option.some.injEq] at hinstallation
      have hpatches : shown.patches = l.current.patches := by
        rw [← hstrokes, hcoherent.patches, hslot.patches]
      rcases hbefore.behind with hlt | ⟨-, -, hlt⟩
      · exact absurd hinstallation (Nat.ne_of_lt hlt)
      · exact absurd (congrArg List.length hpatches) (Nat.ne_of_lt hlt)
  · intro hquiet
    cases hbefore.quiet_iff.1 hquiet
    refine hportrait.coherent ?_ (hslot.module.trans hinstalled) (hstrokes.trans hslot.patches.symm)
    rw [hshown, Option.map_some]

end

/-- What an engine shows, going by its ledger: the image of the installation and
the patches `shown`, made by the strokes in the ledger. -/
structure TracerSlot.Shows (slot : TracerSlot) (config : TracerConfig) (deeds : List Deed)
    (shown : Stamp) (m : Guest.Module) (memory : ByteArray) : Prop where
  module : slot.module = (Ledger.ofDeeds deeds).current.module
  patches : slot.patches = (Ledger.ofDeeds deeds).current.patches
  image : (Ledger.ofDeeds deeds).shown = some shown
  installed : shown.module = some m
  portrait : Portrait config m (Ledger.ofDeeds deeds).strokes memory
  strokes : patchesOf (Ledger.ofDeeds deeds).strokes = shown.patches
  coherent_iff : slot.Coherent config (Ledger.ofDeeds deeds) memory ↔ Undisturbed deeds
  /-- The memory of a module that was replaced, or one without an accepted patch. -/
  behind : ¬ Undisturbed deeds →
    shown.installation < (Ledger.ofDeeds deeds).current.installation ∨
      slot.module = some m ∧ shown.patches.Sublist slot.patches ∧
        shown.patches.length < slot.patches.length

/-- After any history, an engine shows the memory of some installation with
patches accepted since.  It is coherent exactly if no module was installed and
no patch accepted while the execution was under way that the image comes from.
Otherwise what is shown is behind. -/
theorem shown_memory_coherent {s₀ s t : Session} (hfresh : s₀.Fresh) {ops : List (Op × Answer)}
    (hops : Performed s₀ ops s) {name : String} {handle : Handle} {tracer : Tracer}
    (hnamed : s.handles[name]? = some handle) (htracing : s.tracerAt? handle.foreign = some tracer)
    {budget depth : Nat} {memory : ByteArray}
    (h : performWithin budget depth (.handle name .memory) s = some (.memory memory, t)) :
    (∃ js, Course .none s₀ js t) ∧ ∀ js, Course .none s₀ js t →
      ∃ slot shown m, t.slotAt? ⟨handle.foreign, handle.id⟩ = some slot ∧
        slot.Shows tracer.config (deedsAt ⟨handle.foreign, handle.id⟩ js) shown m memory := by
  obtain ⟨js₁, hperformed⟩ := hops.course
  obtain ⟨js₂, hsnapshot⟩ := performWithin_course h
  refine ⟨⟨js₁ ++ js₂, hperformed.trans hsnapshot⟩, fun js hcourse => ?_⟩
  obtain ⟨slot, hslot, himage⟩ := shows_image hnamed htracing h
  have hconfig : t.configAt? handle.foreign = some tracer.config :=
    (hsnapshot.configAt? handle.foreign).trans (Session.configAt?_of_tracerAt? htracing)
  have hbooks : Books tracer.config (t.slotAt? ⟨handle.foreign, handle.id⟩) _ _ :=
    hfresh.books hconfig hcourse
  rw [hslot] at hbooks
  have hbooked := hbooks.slot slot rfl
  obtain ⟨shown, m, hshown, hinstalled, hportrait, hstrokes⟩ := hbooked.shows memory himage
  refine ⟨slot, shown, m, hslot, hbooked.module, hbooked.patches, hshown, hinstalled, hportrait,
    hstrokes, hbooks.coherent_iff himage, fun hdisturbed => ?_⟩
  have hbefore := hbooks.image shown hshown
  rw [Undisturbed, Bool.not_eq_true] at hdisturbed
  rw [hdisturbed] at hbefore
  rw [hbooked.module, hbooked.patches, ← hinstalled]
  exact hbefore.behind.imp_right fun ⟨hsame, hpatches⟩ => ⟨hsame.symm, hpatches⟩

/-! ## A guest that is looked at while it runs -/

/-- A guest with a page of memory and a byte in it.  It calls an import and puts
what comes back into byte 9. -/
def lookingGuest : Guest.Module where
  imports := [⟨"env", "look", .func { results := [.i32] }⟩]
  memories := [{ min := 1 }]
  segments := [⟨0, ⟨#[5]⟩⟩]
  funcs := #[{ code := [.const32 9, .call 0, .store .byte 0] }]
  exports := [⟨"main", .func, 1⟩, ⟨"memory", .memory, 0⟩]

/-- A byte of the memory that an answer shows. -/
def Answer.byteAt (i : Nat) : Answer → Int32
  | .memory shown => (Bytes.byteAt shown i).toUInt32.toInt32
  | _ => 0

/-- Asks for the memory of the engine that is running, and answers with byte 8. -/
def look : HostFunction Callback :=
  .i32 0 fun _ => .ask (.handle "a" .memory) fun a => .done (a.byteAt 8)

/-- Patch bytes 8 and 9 of the guest, and run it with this function. -/
def lookingOps : List Op := [
  .handle "a" (.create 0),
  .handle "a" (.register "look" look),
  .handle "a" (.install (.described lookingGuest)),
  .handle "a" (.patch 8 2 ⟨#[7, 8]⟩),
  .handle "a" .compute]

def lookPatch : Patch := { offset := 8, data := ⟨#[7, 8]⟩ }

def lookBinding : Binding := { shape := look.shape, entry := .forShape look.shape }

def lookLinked : List Linked := [⟨"look", { results := [.i32] }, .bound lookBinding⟩]

def lookingSlot (patches : List Patch) (image : Option ByteArray) : TracerSlot where
  module := some lookingGuest
  bindings := (∅ : Bindings).insert "look" lookBinding
  patches
  image

def lookingPlan (patches : List Patch) : Plan := (lookingSlot patches none).planOf ⟨1⟩ lookingGuest

abbrev lookingHost : Host Session := hostWithin 1 1

/-- A session with one handle, on an engine that has the guest and the function. -/
def lookingSession (patches : List Patch) (image : Option ByteArray) : Session where
  ids := { next := 2 }
  foreigns := (heldSession (lookingSlot patches image)).foreigns
  directory := {
    records := (∅ : EngineTable (EngineRecord Callback)).insert ⟨1⟩ {
      id := ⟨1⟩
      functions := (∅ : Std.ExtTreeMap String (HostFunction Callback)).insert "look" look } }
  handles := (heldSession (lookingSlot patches image)).handles

section

variable {patches patches' : List Patch} {image image' : Option ByteArray}

theorem lookingSession_ready :
    (lookingSession patches image).Ready "a" { id := ⟨1⟩, foreign := 0 }
      (heldTracer (lookingSlot patches image)) (lookingSlot patches image) lookingGuest where
  named := Std.ExtTreeMap.getElem?_insert_self
  tracing := rfl
  there := rfl
  installed := rfl
  accepted := by rfl

theorem lookingSession_setSlotAt :
    (lookingSession patches image).setSlotAt ⟨0, ⟨1⟩⟩ (lookingSlot patches' image') =
      lookingSession patches' image' := by
  with_unfolding_all rfl

theorem lookingPlan_links :
    link {} (lookingPlan patches).bindings lookingGuest = .ok lookLinked := by
  with_unfolding_all rfl

end

/-! ### Its memory -/

/-- The memory of a fresh instance. -/
def lookingMemory : ByteArray := Bytes.overlay (Bytes.zeros Guest.pageSize) 0 ⟨#[5]⟩

/-- What the entry export starts with. -/
def patchedMemory : ByteArray := patchAll lookingMemory [lookPatch]

/-- What the entry export ends with. -/
def lookedMemory : ByteArray := Bytes.overlay patchedMemory 9 ⟨#[7]⟩

theorem zeros_room : 0 + 1 ≤ (Bytes.zeros Guest.pageSize).size := by
  rw [Bytes.size_zeros]
  decide

theorem lookingMemory_placed :
    placeSegments (lookingGuest.machine {}).memory lookingGuest.segments = some lookingMemory :=
  if_pos (decide_eq_true zeros_room)

theorem lookingPlan_filled {patches : List Patch} :
    (lookingPlan patches).filled? {} =
      some { lookingGuest.machine {} with memory := lookingMemory } :=
  filled?_of_placeSegments lookingMemory_placed

theorem size_lookingMemory : lookingMemory.size = Guest.pageSize :=
  (Bytes.size_overlay zeros_room).trans (Bytes.size_zeros _)

theorem lookPatch_fits : lookPatch.FitsIn lookingMemory.size := by
  rw [size_lookingMemory]
  exact ⟨by decide, by decide⟩

theorem size_patchedMemory : patchedMemory.size = Guest.pageSize :=
  (Patch.size_overlay lookPatch_fits).trans size_lookingMemory

theorem byteAt_patchedMemory : Bytes.byteAt patchedMemory 8 = 7 :=
  (Bytes.byteAt_overlay lookPatch_fits.2 8).trans (by rfl)

theorem lookingGuest_prepared :
    ∃ trace, prepareMemory {} (lookingPlan [lookPatch])
      { lookingGuest.machine {} with memory := lookingMemory } {} =
        .ok ({ lookingGuest.machine {} with memory := patchedMemory }, trace) := by
  have hreplays : lookingGuest.Replays [lookPatch] lookingMemory.size := by
    intro p hp
    rw [List.mem_singleton.1 hp]
    exact lookPatch_fits
  obtain ⟨⟨machine, trace⟩, hready⟩ : ∃ ready, prepareMemory {} (lookingPlan [lookPatch])
      { lookingGuest.machine {} with memory := lookingMemory } {} = .ok ready :=
    prepareMemory_isOk_iff.2 hreplays
  obtain ⟨-, rfl, -⟩ := prepareMemory_eq_ok hready
  exact ⟨trace, hready⟩

/-! ### Its run -/

/-- The callback is shown the image, and the session stays as it is. -/
theorem look_answered (patches : List Patch) (image : ByteArray) :
    Answered lookingHost (lookingPlan patches) "look" lookBinding [] (lookingSession patches image)
      (.ok (Bytes.byteAt image 8).toUInt32.toInt32) (lookingSession patches image) := by
  with_unfolding_all rfl

/-- The entry export from its start to its end. -/
theorem lookingGuest_works (trace : Trace) :
    Works lookingHost (lookingPlan [lookPatch]) (lookingGuest.env {}) lookLinked
      ⟨Guest.enter (lookingGuest.env {}) 1 { lookingGuest.machine {} with memory := patchedMemory },
        trace, lookingSession [lookPatch] patchedMemory⟩
      [.write 9 ⟨#[7]⟩]
      ⟨.ended .returned { lookingGuest.machine {} with memory := lookedMemory },
        trace.extend (trace.item "look" (.i32 [1]) (some 7)),
        lookingSession [lookPatch] patchedMemory⟩ := by
  have hanswered := look_answered [lookPatch] patchedMemory
  rw [byteAt_patchedMemory] at hanswered
  have hroom : 9 < patchedMemory.size := by
    rw [size_patchedMemory]
    decide
  have hwrite : Guest.write? patchedMemory (.store .byte 0) [.i32 7, .i32 9] =
      some { address := 9, data := ⟨#[7]⟩, rest := [] } := if_pos (decide_eq_true hroom)
  -- The instructions one after another, and then the end of the body and of the call.
  with_unfolding_all refine .quiet (.inside _ _ _) rfl ?_
  with_unfolding_all refine .quiet (.inside _ _ _) rfl ?_
  with_unfolding_all refine .quiet (.served _ rfl rfl (.heard hanswered (.unarmed _ rfl))) rfl ?_
  with_unfolding_all refine .write (w := ⟨9, ⟨#[7]⟩, []⟩) rfl hwrite ?_
  with_unfolding_all refine .quiet (.inside _ _ _) rfl ?_
  with_unfolding_all refine .quiet (.inside _ _ _) rfl ?_
  with_unfolding_all exact .here _

theorem lookingGuest_carried :
    ∃ steps payload, (carryOut steps lookingHost {} (lookingPlan [lookPatch])).run
        (lookingSession [lookPatch] patchedMemory) =
      some (.ok { payload, memory := some lookedMemory },
        lookingSession [lookPatch] patchedMemory) := by
  obtain ⟨trace, hready⟩ := lookingGuest_prepared
  have hruns := (lookingGuest_works trace).runs (.ended _ _ _ _)
  obtain ⟨steps, hcarried⟩ := (Begins.without lookingPlan_filled rfl).carryOut lookingPlan_links
    hready (by rfl) hruns
  exact ⟨steps, _, hcarried⟩

/-- All that is done to the memory of a fresh instance. -/
def lookStrokes : List Stroke := [.patch lookPatch, .write 9 ⟨#[7]⟩]

theorem lookingGuest_ended :
    Ended lookingHost {} (lookingPlan [lookPatch]) (lookingSession [lookPatch] patchedMemory)
      lookStrokes lookedMemory (lookingSession [lookPatch] patchedMemory) := by
  obtain ⟨trace, hready⟩ := lookingGuest_prepared
  exact .intro lookingPlan_links (.without lookingPlan_filled rfl) rfl hready (by rfl)
    (lookingGuest_works trace) (.ended _ _ _ _)

/-! ### Its history -/

/-- The memory of a fresh instance becomes the image, and the patch goes into it. -/
theorem lookingGuest_patched :
    performWithin 1 1 (.handle "a" (.patch 8 2 ⟨#[7, 8]⟩)) (lookingSession [] none) =
      some (.ok, lookingSession [lookPatch] patchedMemory) := by
  have hmemory : (initialMemory 1 (hostWithin 1 0) {} (lookingPlan [])).run
      (lookingSession [] none) = some (.ok lookingMemory, lookingSession [] none) :=
    initialMemory_of_filled lookingPlan_links lookingPlan_filled rfl
  have hready := @lookingSession_ready [] none
  have hthere := Session.slotAt?_eq_some_iff.1 hready.there
  have hcapturing : Tracer.Capturing 1 (hostWithin 1 0) (foreignAt 0).tracer ⟨1⟩
      (lookingSession [] none) (.ok (lookingSlot [] lookingMemory))
      ((lookingSession [] none).setSlotAt ⟨0, ⟨1⟩⟩ (lookingSlot [] lookingMemory)) :=
    .captured hthere rfl rfl hmemory hthere
  rw [lookingSession_setSlotAt] at hcapturing
  have hmake : Patch.make 8 2 ⟨#[7, 8]⟩ = .ok lookPatch := by rfl
  have happly : lookPatch.applyTo lookingMemory = .ok patchedMemory :=
    Patch.applyTo_eq_ok_iff.2 ⟨lookPatch_fits, rfl⟩
  have haccepted : performWithin 1 1 (.handle "a" (.patch 8 2 ⟨#[7, 8]⟩)) (lookingSession [] none) =
      some (.ok, (lookingSession [] lookingMemory).setSlotAt ⟨0, ⟨1⟩⟩
        (lookingSlot [lookPatch] patchedMemory)) :=
    patch_accepted hready.named hready.tracing hmake hcapturing happly
  rwa [lookingSession_setSlotAt] at haccepted

theorem lookingGuest_installed :
    Performed (tracingSession {}) [
      (.handle "a" (.create 0), .id ⟨1⟩),
      (.handle "a" (.register "look" look), .ok),
      (.handle "a" (.install (.described lookingGuest)), .ok),
      (.handle "a" (.patch 8 2 ⟨#[7, 8]⟩), .ok)] (lookingSession [lookPatch] patchedMemory) :=
  .cons 1 1 (by rfl) <| .cons 1 1 (by with_unfolding_all rfl) <|
    .cons (t := lookingSession [] none) 1 1 (by with_unfolding_all rfl) <|
      .cons 1 1 lookingGuest_patched (.nil _)

theorem lookingOps_performed :
    ∃ done, done.map (·.1) = lookingOps ∧
      Performed (tracingSession {}) done (lookingSession [lookPatch] lookedMemory) := by
  obtain ⟨steps, payload, hcarried⟩ := lookingGuest_carried
  have hready := @lookingSession_ready [lookPatch] patchedMemory
  have hcomputed : performWithin _ _ (.handle "a" .compute)
      (lookingSession [lookPatch] patchedMemory) = some (_,
        (lookingSession [lookPatch] patchedMemory).setSlotAt ⟨0, ⟨1⟩⟩
          (lookingSlot [lookPatch] lookedMemory)) := hready.computes hcarried hready.there
  rw [lookingSession_setSlotAt] at hcomputed
  exact ⟨_, by rfl, lookingGuest_installed.trans (.cons _ _ hcomputed (.nil _))⟩

/-- Nothing is done to the engine between its plan and its memory. -/
theorem lookingOps_journal :
    ∃ js, Course .none (tracingSession {}) js (lookingSession [lookPatch] lookedMemory) ∧
      Undisturbed (deedsAt ⟨0, ⟨1⟩⟩ js) ∧
        (Ledger.ofDeeds (deedsAt ⟨0, ⟨1⟩⟩ js)).strokes = lookStrokes := by
  obtain ⟨js, hinstalled⟩ := lookingGuest_installed.course
  have hready := @lookingSession_ready [lookPatch] patchedMemory
  have hstored : Stored {} (lookingPlan [lookPatch]) ⟨0, ⟨1⟩⟩ _ _ (.kept lookStrokes)
      ((lookingSession [lookPatch] patchedMemory).setSlotAt ⟨0, ⟨1⟩⟩
        (lookingSlot [lookPatch] lookedMemory)) :=
    .kept _ lookedMemory hready.there lookingGuest_ended
  rw [lookingSession_setSlotAt] at hstored
  have hrun : Course .none _ _ _ := .execution hready.tracing hready.there hready.installed (.nil _)
    hstored (.nil _)
  refine ⟨_, hinstalled.trans hrun, ?_⟩
  rw [deedsAt_append, Undisturbed, Quiet.enterAll_append, Ledger.ofDeeds, Ledger.enterAll_append]
  exact ⟨rfl, rfl⟩

theorem lookingSession_shown (patches : List Patch) (image : ByteArray) :
    performWithin 1 1 (.handle "a" .memory) (lookingSession patches image) =
      some (.memory image, lookingSession patches image) := by
  rfl

/-- An engine that a callback has looked at is still left alone.  A byte of the
patch that the guest has not stored over is shown as it was set. -/
theorem lookingGuest_shown :
    (tracingSession {}).Fresh ∧
    (∃ done, done.map (·.1) = lookingOps ∧
      Performed (tracingSession {}) done (lookingSession [lookPatch] lookedMemory)) ∧
    ∃ js, Course .none (tracingSession {}) js (lookingSession [lookPatch] lookedMemory) ∧
      ∃ slot shown m,
        (lookingSession [lookPatch] lookedMemory).slotAt? ⟨0, ⟨1⟩⟩ = some slot ∧
        slot.Shows {} (deedsAt ⟨0, ⟨1⟩⟩ js) shown m lookedMemory ∧
        slot.Coherent {} (.ofDeeds (deedsAt ⟨0, ⟨1⟩⟩ js)) lookedMemory ∧
        Bytes.byteAt lookedMemory 8 = 7 := by
  have hfresh := tracingSession_fresh {}
  obtain ⟨done, hops, hperformed⟩ := lookingOps_performed
  obtain ⟨-, hshows⟩ := shown_memory_coherent hfresh hperformed lookingSession_ready.named
    lookingSession_ready.tracing (lookingSession_shown [lookPatch] lookedMemory)
  obtain ⟨js, hcourse, hundisturbed, hstrokes⟩ := lookingOps_journal
  obtain ⟨slot, shown, m, hslot, hshows⟩ := hshows js hcourse
  have hcoherent := hshows.coherent_iff.2 hundisturbed
  have huncovered : ∀ stroke ∈ [Stroke.write 9 ⟨#[7]⟩], ¬ stroke.Covers 8 := by
    intro stroke hstroke hcovers
    rw [List.mem_singleton.1 hstroke] at hcovers
    exact absurd hcovers.1 (by decide)
  have hvisible := hcoherent.visible [] lookPatch _ 8 hstrokes ⟨by decide, by decide⟩ huncovered
  exact ⟨hfresh, ⟨done, hops, hperformed⟩, js, hcourse, slot, shown, m, hslot, hshows, hcoherent,
    hvisible⟩

/-! ## A guest that is replaced while it runs -/

/-- A guest with so many pages of memory that does nothing. -/
def idleGuest (pages : Nat) : Guest.Module where
  memories := [{ min := pages }]
  funcs := #[{}]
  exports := [⟨"main", .func, 0⟩, ⟨"memory", .memory, 0⟩]

/-- A guest without room in its memory that calls an import. -/
def swappingGuest : Guest.Module where
  imports := [⟨"env", "swap", .func { results := [.i32] }⟩]
  memories := [{ min := 0 }]
  funcs := #[{ code := [.call 0, .drop] }]
  exports := [⟨"main", .func, 1⟩, ⟨"memory", .memory, 0⟩]

/-- Run it with a function that installs another guest when it is called. -/
def swappingOps : List Op := [
  .handle "a" (.create 0),
  .handle "a" (.register "swap" (.i32 0 fun _ =>
    .ask (.handle "a" (.install (.described (idleGuest 1)))) fun _ => .done 0)),
  .handle "a" (.install (.described swappingGuest)),
  .handle "a" .compute,
  .handle "a" .memory]

/-- Whether a memory of no bytes is shown for a slot whose guest has a page. -/
def TracerSlot.outgrown (slot : TracerSlot) (a : Answer) : Bool :=
  match slot.module, a with
  | some m, .memory memory =>
    m.showsMemory && (m.memories.head?.map (·.min)).getD 0 = 1 && memory.size = 0
  | _, _ => false

theorem TracerSlot.not_coherent_of_outgrown {slot : TracerSlot} {a : Answer}
    (h : slot.outgrown a) :
    ∃ memory, a = .memory memory ∧ ∀ l, ¬ slot.Coherent {} l memory := by
  unfold outgrown at h
  split at h
  case h_1 m memory hmodule =>
    rw [Bool.and_eq_true, Bool.and_eq_true, decide_eq_true_iff, decide_eq_true_iff] at h
    obtain ⟨⟨hshows, hpages⟩, hempty⟩ := h
    refine ⟨memory, rfl, ?_⟩
    intro l hcoherent
    obtain ⟨m', hmodule', hportrait⟩ := hcoherent.portrait
    cases hmodule.symm.trans hmodule'
    have hle : (Bytes.zeros _).size ≤ memory.size := hportrait.size_le hshows
    rw [Bytes.size_zeros, hpages, hempty] at hle
    exact absurd hle (by decide)
  case h_2 => cases h

/-- What is shown is the memory of the guest that was replaced, whatever a
ledger says. -/
theorem swappingOps_not_coherent :
    ∃ done s slot memory, (tracingSession {}).after 20 3 swappingOps = some (done, s) ∧
      Performed (tracingSession {}) done s ∧ done.getLast?.map (·.2) = some (.memory memory) ∧
      s.slotAt? ⟨0, ⟨1⟩⟩ = some slot ∧ ∀ l, ¬ slot.Coherent {} l memory := by
  have hoff : ((tracingSession {}).after 20 3 swappingOps).any fun x =>
      (x.1.getLast?.map (·.2)).any fun a => (x.2.slotAt? ⟨0, ⟨1⟩⟩).any (·.outgrown a) := by
    decide +kernel
  obtain ⟨⟨done, s⟩, hafter, hlast⟩ := (Option.any_eq_true _ _).1 hoff
  obtain ⟨a, ha, hany⟩ := (Option.any_eq_true _ _).1 hlast
  obtain ⟨slot, hslot, houtgrown⟩ := (Option.any_eq_true _ _).1 hany
  obtain ⟨memory, rfl, hnot⟩ := TracerSlot.not_coherent_of_outgrown houtgrown
  exact ⟨done, s, slot, memory, hafter, performed_of_after hafter, ha, hslot, hnot⟩

end EngineHost
