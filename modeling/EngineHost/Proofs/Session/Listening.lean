import EngineHost.Proofs.Session.Agreement
/-
Listeners and subscribers.  A foreign engine has a listener for the items of its
log, and the host's record of the engine has a subscriber.  They are two things
in two places, and each is changed without the other: a subscriber that leaves
does not disarm the listener.

While an engine is armed through handles only, and no identity is handed out
twice, an installed subscriber means an armed listener, and an armed listener
leads to the dispatcher, where there is a record.
-/
namespace EngineHost

/-! ## Looking at listeners and subscribers -/

namespace Foreign

/-- The listener of an engine, if the foreign engine knows it. -/
def listener? (f : Foreign) (id : EngineId) : Option (Option LogEntry) :=
  (f.lines? id).map (·.listener)

variable {f g : Foreign} {id : EngineId}

theorem listener?_bind {name : String} {b : Binding} (h : f.bind? id name b = some g)
    (k : EngineId) : g.listener? k = f.listener? k := by
  obtain ⟨old, hold, hlines⟩ := lines?_bind h
  rw [listener?, hlines, listener?]
  split
  case isTrue hk => rw [← hk, hold, Option.map_some, Option.map_some]
  case isFalse => rfl

theorem listener?_listen {entry : LogEntry} (h : f.listen? id entry = some g) :
    (f.listener? id).isSome ∧
      ∀ k, g.listener? k = if id = k then some (some entry) else f.listener? k := by
  obtain ⟨old, hold, hlines⟩ := lines?_listen h
  refine ⟨by rw [listener?, hold]; rfl, fun k => ?_⟩
  rw [listener?, hlines, listener?]
  split <;> rfl

end Foreign

namespace Session

def listenerAt? (s : Session) (site : Site) : Option (Option LogEntry) :=
  ((foreignAt site.foreign).get s).listener? site.id

/-- The subscriber that is installed for an engine. -/
def subscriber? (s : Session) (id : EngineId) : Option (String → Callback) :=
  (s.directory.lookup id).bind (·.subscriber)

variable {s : Session} {index : Nat} {site k : Site}

theorem listenerAt?_setForeign {f : Foreign} :
    (s.setForeign index f).listenerAt? k =
      if index = k.foreign then f.listener? k.id else s.listenerAt? k := by
  simp only [listenerAt?, foreign_get_setForeign]
  split <;> rfl

/-- A foreign engine in the place of one with the same listeners. -/
theorem listenerAt?_setForeign_same {f : Foreign}
    (h : ∀ id, f.listener? id = ((foreignAt index).get s).listener? id) :
    (s.setForeign index f).listenerAt? k = s.listenerAt? k := by
  rw [listenerAt?_setForeign]
  by_cases hk : index = k.foreign
  case neg => rw [if_neg hk]
  case pos => rw [if_pos hk, h, hk, listenerAt?]

/-- A foreign engine in which one engine has another listener. -/
theorem listenerAt?_setForeign_at {f : Foreign} {id : EngineId} {l : Option (Option LogEntry)}
    (h : ∀ k, f.listener? k = if id = k then l else ((foreignAt index).get s).listener? k) :
    (s.setForeign index f).listenerAt? k =
      if (⟨index, id⟩ : Site) = k then l else s.listenerAt? k := by
  obtain ⟨index', id'⟩ := k
  rw [listenerAt?_setForeign, h]
  by_cases hindex : index = index'
  case neg => simp [hindex]
  case pos =>
    subst hindex
    by_cases hid : id = id'
    case neg => simp [hid, listenerAt?]
    case pos => simp [hid]

theorem listenerAt?_eq (s : Session) (site : Site) :
    s.listenerAt? site = (s.linesAt? site).map (·.listener) := rfl

theorem listenerAt?_of_slotAt? {slot : TracerSlot} (h : s.slotAt? site = some slot) :
    s.listenerAt? site = some slot.listener := by
  rw [listenerAt?_eq, linesAt?_of_slotAt? h]
  rfl

theorem listenerAt?_setSlotAt {slot old : TracerSlot} (hold : s.slotAt? site = some old)
    (hsame : slot.lines = old.lines) : (s.setSlotAt site slot).listenerAt? k = s.listenerAt? k := by
  rw [listenerAt?_eq, linesAt?_setSlotAt hold hsame, listenerAt?_eq]

/-- A record that keeps its subscriber. -/
theorem subscriber?_adjust {id k : EngineId} {f : EngineRecord Callback → EngineRecord Callback}
    (h : ∀ r, s.directory.lookup id = some r → (f r).subscriber = r.subscriber) :
    subscriber? { s with directory := s.directory.adjust id f } k = s.subscriber? k := by
  show ((s.directory.adjust id f).lookup k).bind _ = (s.directory.lookup k).bind _
  rw [Directory.lookup_adjust]
  split
  case isFalse => rfl
  case isTrue hk =>
    subst hk
    cases hr : s.directory.lookup id with
    | none => rfl
    | some r => exact h r hr

/-- A record that is given a subscriber, or none. -/
theorem subscriber?_adjust_of_ne {id k : EngineId}
    {f : EngineRecord Callback → EngineRecord Callback} (h : id ≠ k) :
    subscriber? { s with directory := s.directory.adjust id f } k = s.subscriber? k := by
  show ((s.directory.adjust id f).lookup k).bind _ = (s.directory.lookup k).bind _
  rw [Directory.lookup_adjust, if_neg h]

end Session

/-! ## What a change does -/

/-- Operations that arm the listener of an engine through handles only. -/
def Op.ArmsByHandle (site : Site) : Op → Prop
  | .foreign index (.listen id _) => (⟨index, id⟩ : Site) ≠ site
  | _ => True

/-- The discipline of such operations. -/
abbrev armsByHandle (site : Site) : Discipline := .throughout (Op.ArmsByHandle site)

/-- What a change does to listeners and subscribers, by the engines it creates. -/
inductive ListenerChange (d : Discipline) (s t : Session) : List Site → Prop where
  | still (hlisteners : ∀ k, t.listenerAt? k = s.listenerAt? k)
      (hsubscribers : ∀ id f, t.subscriber? id = some f → s.subscriber? id = some f) :
      ListenerChange d s t []
  | created (site : Site) (hother : ∀ k, k ≠ site → t.listenerAt? k = s.listenerAt? k)
      (hsite : t.listenerAt? site = some none ∨ t.listenerAt? site = s.listenerAt? site)
      (hsubscribers : ∀ id f, t.subscriber? id = some f → s.subscriber? id = some f) :
      ListenerChange d s t [site]
  /-- Through a handle, which brings a subscriber, or past the host. -/
  | armed (site : Site) (entry : LogEntry) (hknown : (s.listenerAt? site).isSome)
      (hentry : d.op (.foreign site.foreign (.listen site.id entry)) ∨
        entry = .dispatcher ∧ (s.directory.lookup site.id).isSome)
      (hlisteners : ∀ k, t.listenerAt? k =
        if site = k then some (some entry) else s.listenerAt? k)
      (hsubscribers : ∀ id f, t.subscriber? id = some f →
        site.id = id ∨ s.subscriber? id = some f) :
      ListenerChange d s t []

section

variable {d : Discipline} {s t : Session} {js : Journal}

theorem Change.listeners (h : Change d s js t)
    (hfiled : ∀ (name : String) (handle : Handle), s.handles[name]? = some handle →
      (s.directory.lookup handle.id).isSome) : ListenerChange d s t (Journal.created js) := by
  cases h with
  | noted | handled | desk | named => exact .still (fun _ => rfl) fun _ _ h => h
  | filed id directory hinsert =>
    refine .still (fun _ => rfl) fun k f hf => ?_
    change (directory.lookup k).bind _ = some f at hf
    rw [Directory.lookup_insert? hinsert] at hf
    split at hf
    case isTrue => cases hf
    case isFalse => exact hf
  | created index id ids f hcreate =>
    rcases Foreign.lines?_create hcreate with hlines | rfl
    case inl =>
      have hlisteners (k : Site) : (({ s with ids }).setForeign index f).listenerAt? k =
          if (⟨index, id⟩ : Site) = k then some none else s.listenerAt? k := by
        refine Session.listenerAt?_setForeign_at fun k => ?_
        rw [Foreign.listener?, hlines]
        split <;> rfl
      refine .created ⟨index, id⟩ (fun k hk => ?_) (.inl ?_) fun _ _ h => h
      · rw [hlisteners, if_neg hk.symm]
      · rw [hlisteners, if_pos rfl]
    case inr =>
      have hsame (k : Site) : (({ s with ids }).setForeign index
          ((foreignAt index).get s)).listenerAt? k = s.listenerAt? k :=
        Session.listenerAt?_setForeign_same fun _ => rfl
      exact .created ⟨index, id⟩ (fun k _ => hsame k) (.inr (hsame _)) fun _ _ h => h
  | installed index id binary g hinstall =>
    refine .still (fun _ => Session.listenerAt?_setForeign_same fun k => ?_) fun _ _ h => h
    rw [Foreign.listener?, Foreign.lines?_install hinstall, Foreign.listener?]
  | bound index id name binding g hop hbind =>
    exact .still (fun _ => Session.listenerAt?_setForeign_same (Foreign.listener?_bind hbind))
      fun _ _ h => h
  | listened index id entry g hop hlisten =>
    obtain ⟨hknown, hlisteners⟩ := Foreign.listener?_listen hlisten
    exact .armed ⟨index, id⟩ entry hknown (.inl hop)
      (fun _ => Session.listenerAt?_setForeign_at hlisteners) fun _ _ h => .inr h
  | scripted index e id f hscripted hf =>
    refine .still (fun _ => Session.listenerAt?_setForeign_same fun k => ?_) fun _ _ h => h
    rw [Foreign.listener?, Foreign.lines?_scripted hscripted hf, Foreign.listener?]
  | recorded site slot p image patched hslot =>
    exact .still (fun _ => Session.listenerAt?_setSlotAt hslot rfl) fun _ _ h => h
  | subscribed name handle subscriber g hkept hhandle hlisten =>
    obtain ⟨hknown, hlisteners⟩ := Foreign.listener?_listen hlisten
    refine .armed ⟨handle.foreign, handle.id⟩ .dispatcher hknown
      (.inr ⟨rfl, hfiled name handle hhandle⟩)
      (fun _ => Session.listenerAt?_setForeign_at hlisteners) fun k f hf => ?_
    by_cases hk : handle.id = k
    · exact .inl hk
    · exact .inr ((Session.subscriber?_adjust_of_ne hk).symm.trans hf)
  | unsubscribed id =>
    refine .still (fun _ => rfl) fun k f hf => ?_
    by_cases hk : id = k
    case neg => exact (Session.subscriber?_adjust_of_ne hk).symm.trans hf
    case pos =>
      subst hk
      change ((s.directory.adjust id _).lookup id).bind _ = some f at hf
      rw [Directory.lookup_adjust, if_pos rfl] at hf
      cases hr : s.directory.lookup id with
      | none =>
        rw [hr] at hf
        cases hf
      | some r =>
        rw [hr] at hf
        cases hf
  | registered name functionName handle f record g hkept hhandle hregister hbind =>
    refine .still (fun _ => Session.listenerAt?_setForeign_same (Foreign.listener?_bind hbind))
      fun k subscriber hk => ?_
    refine (Session.subscriber?_adjust fun r hr => ?_).symm.trans hk
    rw [Handle.record, hr, Option.getD_some] at hregister
    obtain ⟨-, rfl⟩ := EngineRecord.register_eq_ok_iff.1 hregister
    rfl

end

/-! ## The invariant -/

/-- The listeners of a session, with the engines that were created so far. -/
structure Session.Listening (site : Site) (s : Session) (created : List Site) : Prop where
  known : ∀ k, (s.listenerAt? k).isSome → k ∈ created
  subscribed : ∀ id f, s.subscriber? id = some f →
    ∃ index entry, s.listenerAt? ⟨index, id⟩ = some (some entry)
  dispatched : ∀ entry, s.listenerAt? site = some (some entry) →
    entry = .dispatcher ∧ (s.directory.lookup site.id).isSome

section

variable {site : Site} {s t : Session} {created new : List Site} {js : Journal}

theorem ListenerChange.listening (h : ListenerChange (armsByHandle site) s t new)
    (hgrows : s.directory.Grows t.directory) (hs : s.Listening site created)
    (hdistinct : Distinct (created ++ new)) : t.Listening site (created ++ new) := by
  cases h with
  | still hlisteners hsubscribers =>
    rw [List.append_nil]
    refine ⟨fun k hk => hs.known k (hlisteners k ▸ hk), fun id f hf => ?_, fun entry he => ?_⟩
    · obtain ⟨index, entry, he⟩ := hs.subscribed id f (hsubscribers id f hf)
      exact ⟨index, entry, by rw [hlisteners, he]⟩
    · rw [hlisteners] at he
      obtain ⟨hentry, hrecord⟩ := hs.dispatched entry he
      exact ⟨hentry, hgrows.isSome hrecord⟩
  | created new hother hsite hsubscribers =>
    refine ⟨fun k hk => ?_, fun id f hf => ?_, fun entry he => ?_⟩
    · by_cases hnew : k = new
      case pos => exact List.mem_append_right _ (by rw [hnew]; exact List.mem_singleton_self new)
      case neg => exact List.mem_append_left _ (hs.known k (hother k hnew ▸ hk))
    · -- An engine that was armed is not the new one.
      obtain ⟨index, entry, he⟩ := hs.subscribed id f (hsubscribers id f hf)
      have hmem := hs.known ⟨index, id⟩ (by rw [he]; rfl)
      exact ⟨index, entry, by rw [hother _ (fun heq => hdistinct.id_ne hmem (congrArg (·.id) heq)), he]⟩
    · have hold : s.listenerAt? site = some (some entry) := by
        by_cases hnew : site = new
        case neg => rwa [hother site hnew] at he
        case pos =>
          subst hnew
          rcases hsite with hsite | hsite
          · rw [hsite] at he
            cases he
          · rwa [hsite] at he
      obtain ⟨hentry, hrecord⟩ := hs.dispatched entry hold
      exact ⟨hentry, hgrows.isSome hrecord⟩
  | armed k entry hknown hentry hlisteners hsubscribers =>
    rw [List.append_nil]
    refine ⟨fun k' hk' => ?_, fun id f hf => ?_, fun entry' he => ?_⟩
    · rw [hlisteners] at hk'
      split at hk'
      case isTrue heq => exact heq ▸ hs.known k hknown
      case isFalse => exact hs.known k' hk'
    · rcases hsubscribers id f hf with hid | hf
      · exact ⟨k.foreign, entry, by rw [hlisteners, if_pos (by rw [← hid])]⟩
      · obtain ⟨index, entry', he⟩ := hs.subscribed id f hf
        by_cases hk : k = ⟨index, id⟩
        · exact ⟨index, entry, by rw [hlisteners, if_pos hk]⟩
        · exact ⟨index, entry', by rw [hlisteners, if_neg hk, he]⟩
    · rw [hlisteners] at he
      split at he
      case isTrue heq =>
        subst heq
        cases he
        rcases hentry with hop | ⟨rfl, hrecord⟩
        · obtain ⟨hne, -⟩ := hop
          exact absurd rfl hne
        · exact ⟨rfl, hgrows.isSome hrecord⟩
      case isFalse =>
        obtain ⟨hentry', hrecord⟩ := hs.dispatched entry' he
        exact ⟨hentry', hgrows.isSome hrecord⟩

theorem Course.listening (h : Course (armsByHandle site) s js t) (hsettled : s.Settled)
    (hs : s.Listening site created) (hdistinct : Distinct (created ++ Journal.created js)) :
    t.Listening site (created ++ Journal.created js) := by
  refine Course.creating (I := Session.Listening site) ?_ ?_ h hsettled hs hdistinct
  case refine_1 =>
    intro s js t created hchange hsettled hs hdistinct
    exact (hchange.listeners hsettled.handles).listening hchange.directory_grows hs hdistinct
  case refine_2 =>
    intro s k slot memory created hslot hs _
    have hlisteners (k' : Site) : (s.setSlotAt k { slot with image := some memory }).listenerAt? k' =
        s.listenerAt? k' := Session.listenerAt?_setSlotAt hslot rfl
    refine ⟨fun k' hk' => hs.known k' (hlisteners k' ▸ hk'), fun id f hf => ?_, fun entry he => ?_⟩
    · obtain ⟨index, entry, he⟩ := hs.subscribed id f hf
      exact ⟨index, entry, by rw [hlisteners, he]⟩
    · exact hs.dispatched entry (hlisteners site ▸ he)

theorem Session.Fresh.listening (hs : s.Fresh) : s.Listening site [] := by
  have hlistener (k : Site) : s.listenerAt? k = none := by
    have hfresh := hs.foreign k.foreign
    unfold Session.listenerAt? Foreign.listener? Foreign.lines?
    cases hf : (foreignAt k.foreign).get s with
    | scripted e | pinned e | tracing t =>
      rw [hf] at hfresh
      simp only [Foreign.Fresh] at hfresh
      simp [hfresh]
  refine ⟨fun k hk => ?_, fun id f hf => ?_, fun entry he => ?_⟩
  · rw [hlistener] at hk
    cases hk
  · rw [Session.subscriber?, hs.directory, Directory.lookup, Std.ExtTreeMap.getElem?_empty] at hf
    cases hf
  · rw [hlistener] at he
    cases he

/-- Where a subscriber is installed, the listener is armed. -/
theorem Session.Listening.armed (hs : s.Listening site created) (hdistinct : Distinct created)
    (hsite : site ∈ created) {f : String → Callback} (hf : s.subscriber? site.id = some f) :
    s.listenerAt? site = some (some .dispatcher) := by
  obtain ⟨index, entry, he⟩ := hs.subscribed site.id f hf
  have hmem := hs.known ⟨index, site.id⟩ (by rw [he]; rfl)
  have hsame : (⟨index, site.id⟩ : Site) = site := hdistinct.eq hmem hsite rfl
  rw [hsame] at he
  obtain ⟨rfl, -⟩ := hs.dispatched entry he
  exact he

end

end EngineHost
