import EngineHost.Proofs.Memory
import EngineHost.Proofs.Session.Lasting
import EngineHost.Proofs.Tracer.Operating
/-
Identities.  One counter of 32 bits serves all foreign engines and all ways to
create an engine, the throwaway engine of a one-shot execution included.  Slots
are stored without a look at what is there, and a record is filed only where
there is none, so that both go well rests on the counter.

The n-th identity is n, up to a multiple of 2 ^ 32.  Until 2 ^ 32 engines have
been created, the next one is new to every foreign engine and to the directory,
and an engine is known to its own foreign engine only.
-/
namespace EngineHost

/-! ## The engines of a run -/

/-- The engines that are created between two sessions, in order.  What happens
besides draws no identity and makes no engine known, and a record is filed only
for an engine that is known. -/
inductive Session.Enrolment (s : Session) : List Site → Session → Prop where
  | start : s.Enrolment [] s
  | steady {created : List Site} {t u : Session} (h : s.Enrolment created t)
      (hsteady : t.Steady u) : s.Enrolment created u
  | created {created : List Site} {t u : Session} {index : Nat} {id : EngineId}
      (h : s.Enrolment created t) (hcreate : createIn index t = some (id, u)) :
      s.Enrolment (created ++ [⟨index, id⟩]) u
  | filed {created : List Site} {t : Session} {id : EngineId} {directory : Directory Callback}
      (h : s.Enrolment created t) (hknown : ∃ index, (t.linesAt? ⟨index, id⟩).isSome)
      (hinsert : t.directory.insert? { id } = some directory) :
      s.Enrolment created { t with directory }

section

variable {s t u : Session} {created created' : List Site}

theorem Session.Enrolment.plain (h : s.Enrolment created t)
    (hplain : ∀ index, ((foreignAt index).get s).Plain) :
    ∀ index, ((foreignAt index).get t).Plain := by
  induction h with
  | start => exact hplain
  | steady _ hsteady => exact hsteady.plain
  | created _ hcreate ih => exact (createIn_enlarges ih hcreate).plain
  | filed _ _ _ ih => exact ih

/-- That some engines have been enrolled goes on to hold. -/
theorem Session.enrolment_lasting (hplain : ∀ index, ((foreignAt index).get s).Plain) :
    Lasting fun t => ∃ created, s.Enrolment created t where
  plain := by
    intro t ht
    obtain ⟨created, ht⟩ := ht
    exact ht.plain hplain
  steady := by
    intro t u ht hsteady
    obtain ⟨created, ht⟩ := ht
    exact ⟨created, ht.steady hsteady⟩
  created := by
    intro t u index id ht hcreate
    obtain ⟨created, ht⟩ := ht
    exact ⟨_, ht.created hcreate⟩
  filed := by
    intro t id directory ht hknown hinsert
    obtain ⟨created, ht⟩ := ht
    exact ⟨created, ht.filed hknown hinsert⟩

/-- A session in which these engines were created, and no others. -/
structure Session.Enrolled (t : Session) (created : List Site) : Prop where
  next : t.ids.next = UInt32.ofNat (created.length + 1)
  drawn : ∀ (n : Nat) (site : Site), created[n]? = some site → site.id = ⟨UInt32.ofNat (n + 1)⟩
  known : ∀ site, (t.linesAt? site).isSome ↔ site ∈ created
  filed : ∀ id, (t.directory.lookup id).isSome → ∃ index, ⟨index, id⟩ ∈ created

theorem Session.Enrolled.steady (h : t.Enrolled created) (hsteady : t.Steady u) :
    u.Enrolled created where
  next := by rw [hsteady.ids, h.next]
  drawn := h.drawn
  known site := by rw [hsteady.engines, h.known]
  filed id hid := h.filed id (by rwa [← hsteady.records])

/-- One more engine.  Its identity is the next number. -/
theorem Session.Enrolled.enlarged (h : t.Enrolled created) {site : Site}
    (henlarged : t.Enlarged site u) : u.Enrolled (created ++ [site]) where
  next := by
    rw [henlarged.next_eq, h.next, List.length_append, List.length_singleton,
      UInt32.ofNat_add (created.length + 1) 1]
    rfl
  drawn n k hk := by
    rcases Nat.lt_trichotomy n created.length with hlt | rfl | hgt
    · rw [List.getElem?_append_left hlt] at hk
      exact h.drawn n k hk
    · rw [List.getElem?_concat_length] at hk
      cases hk
      rw [henlarged.id_eq, h.next]
    · rw [List.getElem?_eq_none (by simp; omega)] at hk
      cases hk
  known k := by
    rw [henlarged.engines, List.mem_append, List.mem_singleton, ← h.known]
    by_cases hk : site = k
    case pos => simp [hk]
    case neg => simp [hk, Ne.symm hk]
  filed id hid := by
    rw [henlarged.directory] at hid
    obtain ⟨index, hindex⟩ := h.filed id hid
    exact ⟨index, List.mem_append_left _ hindex⟩

theorem Session.Enrolled.insert (h : t.Enrolled created) {id : EngineId}
    {directory : Directory Callback} (hknown : ∃ index, (t.linesAt? ⟨index, id⟩).isSome)
    (hinsert : t.directory.insert? { id } = some directory) :
    Session.Enrolled { t with directory } created where
  next := h.next
  drawn := h.drawn
  known := h.known
  filed k hk := by
    change (directory.lookup k).isSome at hk
    rw [Directory.lookup_insert? hinsert] at hk
    split at hk
    case isFalse => exact h.filed k hk
    case isTrue heq =>
      subst heq
      obtain ⟨index, hindex⟩ := hknown
      exact ⟨index, (h.known _).1 hindex⟩

/-- Nothing is known and nothing is filed at first. -/
theorem Session.Fresh.enrolled (hs : s.Fresh) (hids : s.ids = {}) : s.Enrolled [] := by
  refine ⟨by rw [hids]; rfl, nofun, fun site => ?_, fun id hid => ?_⟩
  · have hnone : s.linesAt? site = none := by
      have hfresh := hs.foreign site.foreign
      unfold Session.linesAt? Foreign.lines?
      cases hf : (foreignAt site.foreign).get s with
      | scripted e | pinned e | tracing t =>
        rw [hf] at hfresh
        simp only [Foreign.Fresh] at hfresh
        simp [hfresh]
    simp [hnone]
  · rw [hs.directory] at hid
    simp [Directory.lookup] at hid

theorem Session.Enrolment.enrolled (h : s.Enrolment created t) (hs : s.Fresh)
    (hids : s.ids = {}) (hplain : ∀ index, ((foreignAt index).get s).Plain) :
    t.Enrolled created := by
  induction h with
  | start => exact hs.enrolled hids
  | steady _ hsteady ih => exact ih.steady hsteady
  | created h hcreate ih => exact ih.enlarged (createIn_enlarges (h.plain hplain) hcreate)
  | filed _ hknown hinsert ih => exact ih.insert hknown hinsert

/-! ## Numbers -/

theorem EngineId.eq_iff {a b : EngineId} : a = b ↔ a.val.toNat = b.val.toNat := by
  cases a
  cases b
  rw [EngineId.mk.injEq, UInt32.toNat_inj]

/-- Identities in the order in which they are drawn: the n-th is n modulo 2 ^ 32.
Positions are counted from 0 here. -/
structure Numbered (created : List Site) : Prop where
  number : ∀ (n : Nat) (site : Site), created[n]? = some site →
    site.id.val.toNat = (n + 1) % UInt32.size
  coincide : ∀ (m n : Nat) (a b : Site), created[m]? = some a → created[n]? = some b →
    (a.id = b.id ↔ m % UInt32.size = n % UInt32.size)

theorem Session.Enrolled.numbered (h : t.Enrolled created) : Numbered created := by
  have hnumber (n : Nat) (site : Site) (hn : created[n]? = some site) :
      site.id.val.toNat = (n + 1) % UInt32.size := by
    rw [h.drawn n site hn]
    exact UInt32.toNat_ofNat'
  refine ⟨hnumber, fun m n a b ha hb => ?_⟩
  rw [EngineId.eq_iff, hnumber m a ha, hnumber n b hb]
  simp only [UInt32.size]
  omega

/-- Up to 2 ^ 32 engines, positions have identities of their own. -/
theorem Numbered.eq_of_id (h : Numbered created) (hlength : created.length ≤ UInt32.size) {a b : Site}
    (ha : a ∈ created) (hb : b ∈ created) (hid : a.id = b.id) : a = b := by
  obtain ⟨m, hm⟩ := List.mem_iff_getElem?.1 ha
  obtain ⟨n, hn⟩ := List.mem_iff_getElem?.1 hb
  have hmod := (h.coincide m n a b hm hn).1 hid
  have hm' := (List.getElem?_eq_some_iff.1 hm).1
  have hn' := (List.getElem?_eq_some_iff.1 hn).1
  obtain rfl : m = n := by
    rwa [Nat.mod_eq_of_lt (by omega), Nat.mod_eq_of_lt (by omega)] at hmod
  exact Option.some.inj (hm.symm.trans hn)

/-- The next identity, before 2 ^ 32 engines have been created. -/
theorem Session.Enrolled.next_ne (h : t.Enrolled created) (hlength : created.length < UInt32.size)
    {site : Site} (hsite : site ∈ created) : site.id ≠ ⟨t.ids.next⟩ := by
  obtain ⟨n, hn⟩ := List.mem_iff_getElem?.1 hsite
  have hlt := (List.getElem?_eq_some_iff.1 hn).1
  have hnumber := h.numbered.number n site hn
  have hnext : t.ids.next.toNat = (created.length + 1) % UInt32.size := by
    rw [h.next]
    exact UInt32.toNat_ofNat'
  intro heq
  rw [EngineId.eq_iff, hnumber, hnext] at heq
  simp only [UInt32.size] at hlength heq
  omega

/-- Until 2 ^ 32 engines have been created, the engines of a session are told
apart by what is known in it. -/
theorem Session.Enrolled.unique (h : t.Enrolled created) (h' : t.Enrolled created')
    (hlength : created.length < UInt32.size) : created' = created := by
  have hmem (site : Site) : site ∈ created' ↔ site ∈ created := by rw [← h.known, ← h'.known]
  -- The largest position has the identity 0, which is drawn at no smaller one.
  have hlength' : created'.length < UInt32.size := by
    by_contra hge
    have hlast : UInt32.size - 1 < created'.length := by omega
    have hzero := h'.numbered.number _ _ (List.getElem?_eq_getElem hlast)
    have hsite := (hmem _).1 (List.getElem_mem hlast)
    obtain ⟨n, hn⟩ := List.mem_iff_getElem?.1 hsite
    have hnumber := h.numbered.number n _ hn
    have hlt := (List.getElem?_eq_some_iff.1 hn).1
    simp only [UInt32.size] at hlength hzero hnumber
    omega
  have hsame : created'.length = created.length := by
    have hnext := congrArg UInt32.toNat (h'.next.symm.trans h.next)
    rw [UInt32.toNat_ofNat', UInt32.toNat_ofNat'] at hnext
    simp only [UInt32.size] at hlength hlength'
    omega
  refine List.ext_getElem hsame fun n hn hn' => ?_
  refine h'.numbered.eq_of_id (Nat.le_of_lt hlength') (List.getElem_mem hn)
    ((hmem _).2 (List.getElem_mem hn')) ?_
  rw [h'.drawn n _ (List.getElem?_eq_getElem hn), h.drawn n _ (List.getElem?_eq_getElem hn')]

end

/-! ## What is new, and what is elsewhere -/

/-- The slot that a foreign engine has for an engine. -/
def Foreign.held? (f : Foreign) (id : EngineId) : Option Held :=
  match f with
  | .scripted e | .pinned e _ => (e.slots[id]?).map .scripted
  | .tracing t => (t.slots[id]?).map .tracing

theorem Foreign.isSome_held? {f : Foreign} {id : EngineId} :
    (f.held? id).isSome = (f.lines? id).isSome := by
  cases f <;> simp [held?, lines?]

/-- Creating an engine replaces no slot, and a handle on a new engine is made
whatever the host runs. -/
structure Session.Unspent (t : Session) : Prop where
  created : ∀ (index : Nat) (id : EngineId) (u : Session), createIn index t = some (id, u) →
    (∀ k, ((foreignAt k).get t).held? id = none) ∧
    ∀ (k : Nat) (other : EngineId) (slot : Held), ((foreignAt k).get t).held? other = some slot →
      ((foreignAt k).get u).held? other = some slot
  handled : ∀ (go : Callback → Run Int32) (index : Nat), ∃ id u,
    (Handle.create go index).run t = some (.ok { id, foreign := index }, u)

/-- A foreign engine does not know an engine, whatever it is asked to do with
it.  The length of a patch is looked at before. -/
structure Session.Unknown (t : Session) (index : Nat) (id : EngineId) : Prop where
  install : ∀ binary, ((foreignAt index).get t).install id binary = .error (.unknownEngine id)
  compute : ∀ budget host, (Foreign.compute budget host (foreignAt index) id).run t =
    some (.error (.unknownEngine id), t)
  snapshot : ∀ budget host, (Foreign.snapshot budget host (foreignAt index) id).run t =
    some (.error (.unknownEngine id), t)
  patch : ∀ budget host offset (length : UInt32) (data : ByteArray), data.size = length.toNat →
    (Foreign.patch budget host (foreignAt index) id offset length data).run t =
      some (.error (.unknownEngine id), t)
  bind : ∀ name b, ((foreignAt index).get t).bind? id name b = none
  listen : ∀ entry, ((foreignAt index).get t).listen? id entry = none

section

variable {f : Foreign} {e : Scripted} {id : EngineId}

theorem Scripted.slot_unknown (h : e.slots[id]? = none) : e.slot id = .error (.unknownEngine id) := by
  unfold slot
  rw [h]

namespace Foreign

theorem slots_of_lines (h : (Foreign.scripted e).lines? id = none) : e.slots[id]? = none :=
  Option.map_eq_none_iff.1 h

variable (h : f.lines? id = none)

include h

theorem install_unknown (binary : Guest.Binary) :
    f.install id binary = .error (.unknownEngine id) := by
  cases f with
  | scripted e | pinned e =>
    show (e.install id binary).map _ = _
    unfold Scripted.install
    rw [Scripted.slot_unknown (slots_of_lines h)]
    rfl
  | tracing t =>
    show (t.install id binary).map _ = _
    rw [Tracer.install_eq_error_iff.2 (.inl ⟨Option.map_eq_none_iff.1 h, rfl⟩)]
    rfl

theorem bind?_unknown (name : String) (b : Binding) : f.bind? id name b = none := by
  cases hbind : f.bind? id name b with
  | none => rfl
  | some g =>
    obtain ⟨old, hold, -⟩ := lines?_bind hbind
    cases h.symm.trans hold

theorem listen?_unknown (entry : LogEntry) : f.listen? id entry = none := by
  cases hlisten : f.listen? id entry with
  | none => rfl
  | some g =>
    obtain ⟨old, hold, -⟩ := lines?_listen hlisten
    cases h.symm.trans hold

end Foreign

end

namespace Session

variable {t : Session} {index : Nat} {id : EngineId}

section

variable (h : ((foreignAt index).get t).lines? id = none) (budget : Nat) (host : Host Session)

include h

/-- A tracing engine has no slot for an engine that is not known. -/
theorem tracer_slots_unknown : ((foreignAt index).tracer.get t).slots[id]? = none := by
  cases hslot : t.slotAt? ⟨index, id⟩ with
  | some slot => cases h.symm.trans (linesAt?_of_slotAt? hslot)
  | none =>
    refine Option.eq_none_iff_forall_ne_some.2 fun slot heq => ?_
    rw [slotAt?_eq_some_iff.2 heq] at hslot
    cases hslot

theorem compute_unknown : (Foreign.compute budget host (foreignAt index) id).run t =
    some (.error (.unknownEngine id), t) := by
  have hslots := tracer_slots_unknown h
  unfold Foreign.compute
  rw [Turn.run_lift_bind, Turn.bind_eq_of_eq_some rfl]
  cases hf : (foreignAt index).get t with
  | scripted e | pinned e =>
    rw [hf] at h
    dsimp only
    unfold Scripted.compute
    rw [Scripted.slot_unknown (Foreign.slots_of_lines h)]
    rfl
  | tracing =>
    exact Tracer.compute_eq_some_iff.2
      (.unplanned (Tracer.plan_eq_error_iff.2 (.inl ⟨hslots, rfl⟩)))

theorem snapshot_unknown : (Foreign.snapshot budget host (foreignAt index) id).run t =
    some (.error (.unknownEngine id), t) := by
  have hslots := tracer_slots_unknown h
  unfold Foreign.snapshot
  rw [Turn.run_lift_bind, Turn.bind_eq_of_eq_some rfl]
  cases hf : (foreignAt index).get t with
  | scripted e | pinned e =>
    rw [hf] at h
    dsimp only
    unfold Scripted.snapshot
    rw [Scripted.slot_unknown (Foreign.slots_of_lines h)]
    rfl
  | tracing => exact Tracer.snapshot_eq_some_iff.2 ⟨_, .unknown hslots, rfl⟩

theorem patch_unknown (offset : UInt32) {length : UInt32} {data : ByteArray}
    (hlength : data.size = length.toNat) :
    (Foreign.patch budget host (foreignAt index) id offset length data).run t =
      some (.error (.unknownEngine id), t) := by
  have hslots := tracer_slots_unknown h
  unfold Foreign.patch
  rw [Turn.run_lift_bind, Turn.bind_eq_of_eq_some rfl]
  cases hf : (foreignAt index).get t with
  | scripted e | pinned e =>
    rw [hf] at h
    dsimp only
    unfold Scripted.patch
    rw [Scripted.slot_unknown (Foreign.slots_of_lines h)]
    rfl
  | tracing =>
    have hmake : Patch.make offset length data = .ok { offset, data } := by
      unfold Patch.make
      rw [checkLength_of_eq hlength]
      rfl
    exact Tracer.patch_eq_some_iff.2 (.uncaptured hmake (.unknown hslots))

theorem unknown_of_lines : t.Unknown index id where
  install := Foreign.install_unknown h
  compute := compute_unknown h
  snapshot := snapshot_unknown h
  patch budget host offset _ _ hlength := patch_unknown h budget host offset hlength
  bind := Foreign.bind?_unknown h
  listen := Foreign.listen?_unknown h

end

end Session

section

variable {s t u : Session} {created : List Site} {index : Nat} {id : EngineId}

/-- Creating an engine touches no slot of another one. -/
theorem Foreign.held?_create {f g : Foreign} {ids ids' : IdSource} (hf : f.Plain)
    (h : f.create ids = (id, ids', g)) {k : EngineId} (hk : id ≠ k) : g.held? k = f.held? k := by
  cases f with
  | pinned e kept => exact absurd rfl (hf e kept)
  | scripted e =>
    cases h
    simp only [held?, Scripted.create, Scripted.slots_setSlot, if_neg hk]
  | tracing t =>
    cases h
    simp only [held?, Tracer.create, Tracer.slots_setSlot, if_neg hk]

theorem createIn_held? (hplain : ∀ index, ((foreignAt index).get t).Plain)
    (h : createIn index t = some (id, u)) {k : Nat} {other : EngineId} (hother : id ≠ other) :
    ((foreignAt k).get u).held? other = ((foreignAt k).get t).held? other := by
  have hcreate : ((foreignAt index).get t).create t.ids = _ := rfl
  unfold createIn at h
  cases h
  rw [Session.foreign_get_setForeign]
  split
  case isTrue hk =>
    subst hk
    exact Foreign.held?_create (hplain index) hcreate hother
  case isFalse => rfl

/-- An identity that is free ends in a handle. -/
theorem create_of_free {go : Callback → Run Int32} (hcreate : createIn index t = some (id, u))
    (hfree : u.directory.lookup id = none) :
    ∃ v, (Handle.create go index).run t = some (.ok { id, foreign := index }, v) := by
  have hinsert : ∃ d, u.directory.insert? { id } = some d :=
    ⟨_, Directory.insert?_eq_some_iff.2 ⟨hfree, rfl⟩⟩
  obtain ⟨d, hinsert⟩ := hinsert
  refine ⟨{ u with directory := d }, ?_⟩
  unfold Handle.create
  rw [Turn.run_lift_bind, Turn.bind_eq_of_eq_some hcreate, Turn.run_get_bind, hinsert]
  rfl

namespace Session.Enrolled

variable (h : t.Enrolled created) (hlength : created.length < UInt32.size)

include h hlength

/-- The next identity is known to no foreign engine. -/
theorem next_unknown (k : Nat) : ((foreignAt k).get t).lines? ⟨t.ids.next⟩ = none := by
  rw [← Option.isNone_iff_eq_none, ← Option.not_isSome, Bool.not_eq_true']
  refine Bool.eq_false_iff.2 fun hsome => ?_
  exact h.next_ne hlength ((h.known ⟨k, _⟩).1 hsome) rfl

/-- The next identity has no record. -/
theorem next_unfiled : t.directory.lookup ⟨t.ids.next⟩ = none := by
  rw [← Option.isNone_iff_eq_none, ← Option.not_isSome, Bool.not_eq_true']
  refine Bool.eq_false_iff.2 fun hsome => ?_
  obtain ⟨k, hk⟩ := h.filed _ hsome
  exact h.next_ne hlength hk rfl

theorem unspent (hplain : ∀ index, ((foreignAt index).get t).Plain) : t.Unspent where
  created index id u hcreate := by
    obtain rfl : id = ⟨t.ids.next⟩ := (createIn_enlarges hplain hcreate).id_eq
    have hnone (k : Nat) : ((foreignAt k).get t).held? ⟨t.ids.next⟩ = none := by
      rw [← Option.isNone_iff_eq_none, ← Option.not_isSome, Foreign.isSome_held?,
        h.next_unknown hlength]
      rfl
    refine ⟨hnone, fun k other slot hslot => ?_⟩
    rw [createIn_held? hplain hcreate, hslot]
    intro heq
    rw [← heq, hnone] at hslot
    cases hslot
  handled go index := by
    obtain ⟨id, u, hcreate⟩ : ∃ id u, createIn index t = some (id, u) := ⟨_, _, rfl⟩
    have henlarged := createIn_enlarges hplain hcreate
    have hid : id = ⟨t.ids.next⟩ := henlarged.id_eq
    have hfree : u.directory.lookup id = none := by
      rw [henlarged.directory, hid]
      exact h.next_unfiled hlength
    exact ⟨id, create_of_free hcreate hfree⟩

end Session.Enrolled

/-- Up to 2 ^ 32 engines, an engine is known to its own foreign engine only. -/
theorem Session.Enrolled.unknown (h : t.Enrolled created) (hlength : created.length ≤ UInt32.size)
    {site : Site} (hsite : site ∈ created) (hindex : index ≠ site.foreign) :
    t.Unknown index site.id := by
  refine unknown_of_lines ?_
  rw [← Option.isNone_iff_eq_none, ← Option.not_isSome, Bool.not_eq_true']
  refine Bool.eq_false_iff.2 fun hsome => ?_
  have hmem := (h.known ⟨index, site.id⟩).1 hsome
  have heq := h.numbered.eq_of_id hlength hmem hsite rfl
  exact hindex (congrArg (·.foreign) heq)

end

/-! ## Uniqueness -/

/-- What a session that a run passes through tells of identities. -/
structure Session.Counts (s t : Session) : Prop where
  enrolment : ∃ created, s.Enrolment created t
  numbered : ∀ created, s.Enrolment created t → Numbered created
  /-- Before the counter has wrapped there is one way to enumerate the engines. -/
  sole : ∀ created created', s.Enrolment created t → s.Enrolment created' t →
    created.length < UInt32.size → created' = created
  unspent : ∀ created, s.Enrolment created t → created.length < UInt32.size → t.Unspent
  unknown : ∀ created, s.Enrolment created t → created.length ≤ UInt32.size →
    ∀ site ∈ created, ∀ index, index ≠ site.foreign → t.Unknown index site.id

section

variable {s : Session} (hs : s.Fresh) (hids : s.ids = {})
  (hplain : ∀ index, ((foreignAt index).get s).Plain)

include hs hids hplain

theorem Session.Fresh.counts {t : Session} (ht : ∃ created, s.Enrolment created t) :
    s.Counts t where
  enrolment := ht
  numbered _ h := (h.enrolled hs hids hplain).numbered
  sole _ _ h h' := (h.enrolled hs hids hplain).unique (h'.enrolled hs hids hplain)
  unspent _ h hlength := (h.enrolled hs hids hplain).unspent hlength (h.plain hplain)
  unknown _ h hlength _ hsite _ := (h.enrolled hs hids hplain).unknown hlength hsite

/-- Identities are unique until the counter wraps, in every session that a run
passes through: wherever an operation starts or ends, of the caller or of a
callback, at any depth. -/
theorem identities_unique_until_wrap {budget depth : Nat} {ops : List Op}
    {log : List (Answer × List Event)} (h : s.transcript budget depth ops = some log) :
    s.guarded s.Counts budget depth ops = some log :=
  Session.guarded_of_lasting (Session.enrolment_lasting hplain) (hs.counts hids hplain)
    ⟨[], .start⟩ h

end

/-! ## All ways to create an engine -/

/-- A session at its start, with a scripted and a tracing engine. -/
def mixedSession : Session where
  foreigns := ((∅ : Std.ExtTreeMap Nat Foreign).insert 0 (.scripted {})).insert 1 (.tracing {})

theorem mixedSession_foreigns {P : Foreign → Prop} (hscripted : P (.scripted {}))
    (htracing : P (.tracing {})) (index : Nat) : P ((foreignAt index).get mixedSession) := by
  show P ((((∅ : Std.ExtTreeMap Nat Foreign).insert 0 _).insert 1 _).getD index default)
  simp only [Std.ExtTreeMap.getD_insert, Std.ExtTreeMap.getD_empty]
  split
  · exact htracing
  · split <;> exact hscripted

theorem mixedSession_fresh : mixedSession.Fresh := by
  refine ⟨fun index f hf => ?_, rfl, rfl, rfl, rfl⟩
  have hget : (foreignAt index).get mixedSession = f := by
    show mixedSession.foreigns.getD index default = f
    rw [Std.ExtTreeMap.getD_eq_getD_getElem?, hf, Option.getD_some]
  rw [← hget]
  exact mixedSession_foreigns (P := Foreign.Fresh) rfl rfl index

/-- Handles on both, an engine past the host, one-shot executions that fail, and
a callback that makes a handle and is called twice. -/
def mixedOps : List Op := [
  .handle "a" (.create 0),
  .foreign 1 .create,
  .executeBinary 1 (.bytes .empty),
  .foreign 1 (.execute (.bytes .empty)),
  .handle "b" (.create 1),
  .handle "a" (.register "again" (.i32 0 fun _ =>
    .ask (.handle "c" (.create 0)) fun _ => .done 0)),
  .enter ⟨1⟩ "again" (.i32 [1]),
  .enter ⟨1⟩ "again" (.i32 [1]),
  .foreign 1 (.memory ⟨1⟩),
  .handle "c" .debug]

theorem mixedOps_counted :
    mixedSession.Fresh ∧ mixedSession.ids = {} ∧
      (∀ index, ((foreignAt index).get mixedSession).Plain) ∧
      ∃ log, mixedSession.transcript 9 3 mixedOps = some log ∧
        mixedSession.guarded mixedSession.Counts 9 3 mixedOps = some log := by
  have hplain (index : Nat) : ((foreignAt index).get mixedSession).Plain :=
    mixedSession_foreigns nofun nofun index
  have hsome : (mixedSession.transcript 9 3 mixedOps).isSome := by decide +kernel
  obtain ⟨log, hlog⟩ := Option.isSome_iff_exists.1 hsome
  exact ⟨mixedSession_fresh, rfl, hplain, log, hlog,
    identities_unique_until_wrap mixedSession_fresh rfl hplain hlog⟩

end EngineHost
