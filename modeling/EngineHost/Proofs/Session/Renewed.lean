import EngineHost.Proofs.Session.Unnoticed
import EngineHost.Proofs.Tracer.Renewing
import Mathlib.Logic.Equiv.Basic
/-
Engines made new.  A binary that is installed leaves of an engine its bindings
and its listener, and nothing else, so that the engine goes on like one that was
created just now.
-/
namespace EngineHost

/-- Installing makes an engine new.  Whatever has been done to it, once a binary
is installed its slot holds the module, the bindings and the listener, and from
then on it responds as an engine does that was only created, given the same
bindings and listener, and had the same binary installed.  The two may be in one
world or in two.  What their entries say of the one they say of the other, and
so do the responses. -/
theorem install_renews {σ τ : Type} {E : EntryPoint → Prop} {L : LogEntry → Prop} {w : Retelling}
    {a : Seat σ} {b : Seat τ} (h : Twins E L w a b) {s t : σ} {x y : τ} {budget : Nat}
    {binary : Guest.Binary} {old new : TracerSlot} (hs : a.among s) (hx : b.among x)
    (hconfig : (b.here.get x).config = (a.here.get s).config)
    (hold : (a.here.get s).slots[a.id]? = some old) (hrefers : old.Refers E L)
    (hinstall : (Tracer.Request.install binary).perform budget a.host a.here a.id s =
      some (.done, t))
    (houtfitted : b.Outfitted x y) (hnew : (b.here.get y).slots[b.id]? = some new)
    (hbindings : new.bindings = old.bindings) (hlistener : new.listener = old.listener) :
    (∃ m, binary.compile = .ok m ∧ (a.here.get t).slots[a.id]? =
      some { module := some m, bindings := old.bindings, listener := old.listener }) ∧
    ∃ z, (Tracer.Request.install binary).perform budget b.host b.here b.id y = some (.done, z) ∧
      ∀ exchange : List (Tracer.Request × Tracer.Response), (∀ q ∈ exchange, q.1.Refers E L) →
        (Tracer.Responds a.host a.here t (exchange.map fun q => (a.id, q)) ↔
          Tracer.Responds b.host b.here z (exchange.map fun q => (b.id, q.1, q.2.retold w))) := by
  obtain ⟨hy, hkept, bindings, listener, hblank⟩ := houtfitted.blank hx
  cases hnew.symm.trans hblank
  rcases Tracer.perform_install_iff.1 hinstall with ⟨_, hok, -, rfl⟩ | ⟨_, _, ⟨⟩, _⟩
  obtain ⟨slot, m, hslot, hcompile, happrove, rfl⟩ := Tracer.install_eq_ok_iff.1 hok
  cases hold.symm.trans hslot
  have hconfig' : (b.here.get y).config = (a.here.get s).config := hkept.trans hconfig
  rw [← hconfig'] at happrove
  have hok' := Tracer.install_eq_ok_iff.2 ⟨_, m, hnew, hcompile, happrove, rfl⟩
  have hlevel : Level E L a b
      (a.here.set ((a.here.get s).setSlot a.id
        { old with module := some m, patches := [], image := none }) s)
      (b.here.set ((b.here.get y).setSlot b.id
        { bindings, listener, module := some m, patches := [], image := none }) y) := by
    refine ⟨⟨a.written _ _ hs, b.written _ _ hy⟩, ?_, ?_, ?_⟩
    · rw [a.here.get_set, b.here.get_set]
      exact hconfig'
    · simp only [a.here.get_set, b.here.get_set, Tracer.slots_setSlot, if_true]
      rw [show bindings = old.bindings from hbindings, show listener = old.listener from hlistener]
    · intro other hother
      rw [a.here.get_set, Tracer.slots_setSlot, if_pos rfl] at hother
      cases hother
      exact ⟨hrefers.entries, hrefers.listener⟩
  refine ⟨⟨m, hcompile, ?_⟩, _, Tracer.perform_install_iff.2 (.inl ⟨_, hok', rfl, rfl⟩),
    fun exchange hexchange => h.responds_iff hlevel hexchange⟩
  rw [a.here.get_set, Tracer.slots_setSlot, if_pos rfl]

/-! ## Entries that answer by themselves -/

/-- An engine of a session, in whatever state the session is. -/
def Session.seat (go : Callback → Run Int32) (index : Nat) (id : EngineId) : Seat Session where
  host := sessionHost go
  here := (foreignAt index).tracer
  id := id
  among _ := True
  written _ _ _ := trivial

/-- Entries that answer both engines by themselves, and alike. -/
theorem twins_of_standalone {go : Callback → Run Int32} {index : Nat} {id id' : EngineId}
    {w : Retelling} {E : EntryPoint → Prop} {L : LogEntry → Prop} (hrenamed : w.engine id = id')
    (hentries : ∀ entry, E entry → ∃ noted answer, entry.target = .standalone noted answer ∧
      ∀ name args, answer id' name (marshal id' entry.path args) =
        (answer id name (marshal id entry.path args)).mapError w.fault)
    (hlisteners : ∀ entry, L entry → ∃ noted answer, entry = .standalone noted answer ∧
      ∀ item, answer id' item = (answer id item).mapError w.fault) :
    Twins E L w (Session.seat go index id) (Session.seat go index id') where
  renamed := hrenamed
  enter entry hentry name args := by
    obtain ⟨noted, answer, htarget, hanswer⟩ := hentries entry hentry
    refine ⟨_, enter_detached htarget name _, ?_⟩
    show Detached _ _ _ (some ((answer id name (marshal id entry.path args)).mapError w.fault))
    rw [← hanswer]
    exact enter_detached htarget name _
  deliver entry hentry item := by
    obtain ⟨noted, answer, rfl, hanswer⟩ := hlisteners entry hentry
    refine ⟨_, deliver_detached noted answer item, ?_⟩
    show Detached _ _ _ (some ((answer id item).mapError w.fault))
    rw [← hanswer]
    exact deliver_detached noted answer item

/-! ## Entries that add or refuse -/

/-- A fault in which the engines go by other identities. -/
def BindingFault.renamed (f : EngineId → EngineId) : BindingFault → BindingFault
  | .unknownEngine id => .unknownEngine (f id)
  | .duplicateEngine id => .duplicateEngine (f id)
  | .unknownFunction id name => .unknownFunction (f id) name
  | .duplicateFunction id name => .duplicateFunction (f id) name
  | .shapeMismatch id name declared invoked => .shapeMismatch (f id) name declared invoked
  | .markerMismatch id name found => .markerMismatch (f id) name found
  | .importRejected id name shape => .importRejected (f id) name shape
  | .logListenerRejected id => .logListenerRejected (f id)
  | .malformedLogItem id => .malformedLogItem (f id)

/-- To say of each engine what was said of the other. -/
def Retelling.swapping (id id' : EngineId) : Retelling where
  engine := Equiv.swap id id'
  fault :=
    have hback (cause : BindingFault) :
        (cause.renamed (Equiv.swap id id')).renamed (Equiv.swap id id') = cause := by
      cases cause <;> simp [BindingFault.renamed]
    ⟨.renamed (Equiv.swap id id'), .renamed (Equiv.swap id id'), hback, hback⟩

inductive EntryPoint.Plain : EntryPoint → Prop where
  | summing (path : CallPath) : Plain (.summing path)
  | refusing (path : CallPath) : Plain (.refusing path)

inductive LogEntry.Plain : LogEntry → Prop where
  | accepting : Plain .accepting
  | refusing : Plain .refusing

/-- Such entries tell one engine from another by its name only. -/
theorem twins_of_plain (go : Callback → Run Int32) (index : Nat) (id id' : EngineId) :
    Twins EntryPoint.Plain LogEntry.Plain (.swapping id id') (Session.seat go index id)
      (Session.seat go index id') := by
  have hrenamed : (Retelling.swapping id id').engine id = id' := Equiv.swap_apply_left id id'
  refine twins_of_standalone hrenamed (fun entry hentry => ?_) (fun entry hentry => ?_)
  · cases hentry with
    | summing path =>
      refine ⟨_, _, rfl, fun name args => ?_⟩
      rw [marshal_args_eq id' id]
      cases path <;> rfl
    | refusing path =>
      refine ⟨_, _, rfl, fun name args => ?_⟩
      exact congrArg (fun k => Except.error (BindingFault.unknownFunction k name)) hrenamed.symm
  · cases hentry with
    | accepting => exact ⟨_, _, rfl, fun _ => rfl⟩
    | refusing =>
      refine ⟨_, _, rfl, fun item => ?_⟩
      exact congrArg (fun k => Except.error (BindingFault.unknownEngine k)) hrenamed.symm

/-- An engine that has been patched and has shown its memory. -/
def wornSlot : TracerSlot :=
  { startingSlot with patches := [{ offset := 0, data := .empty }], image := some .empty }

/-- The session in which it gets another guest. -/
def wornSession : Session := heldSession wornSlot

def renewedSession : Session :=
  summingPlace.set ((heldTracer wornSlot).setSlot ⟨1⟩
    { wornSlot with module := some summingGuest, patches := [], image := none }) wornSession

abbrev summingSeat (id : EngineId) : Seat Session :=
  Session.seat (Program.play (performWithin 1 1) note) 0 id

theorem renewedSession_computes :
    (Tracer.Request.compute.perform 30 summingHost summingPlace ⟨1⟩ renewedSession).any
      (!·.1.isFailed) = true := by
  decide +kernel

theorem wornSession_outfitted :
    ∃ y, (summingSeat ⟨2⟩).Outfitted wornSession y ∧
      ((summingSeat ⟨2⟩).here.get y).slots[(summingSeat ⟨2⟩).id]? =
        some { bindings := wornSlot.bindings, listener := wornSlot.listener } := by
  obtain ⟨t, ht, hslot⟩ := (summingSeat ⟨2⟩).outfitted_create wornSession
  obtain ⟨u, hu, hslot⟩ := ht.bind hslot "sum" { shape := .i32 2, entry := .summing .i32 } rfl
  exact hu.listen hslot .accepting

/-- An engine that was worn is made new, and computes for its new guest what
another engine computes that was created for it. -/
theorem wornSession_renewed :
    Twins EntryPoint.Plain LogEntry.Plain (.swapping ⟨1⟩ ⟨2⟩) (summingSeat ⟨1⟩) (summingSeat ⟨2⟩) ∧
      wornSlot.Refers EntryPoint.Plain LogEntry.Plain ∧
      (summingPlace.get wornSession).slots[(⟨1⟩ : EngineId)]? = some wornSlot ∧
      (Tracer.Request.install (.described summingGuest)).perform 0 summingHost summingPlace ⟨1⟩
        wornSession = some (.done, renewedSession) ∧
      ∃ y z r, (summingSeat ⟨2⟩).Outfitted wornSession y ∧
        (Tracer.Request.install (.described summingGuest)).perform 0 summingHost summingPlace ⟨2⟩
          y = some (.done, z) ∧
        r.isFailed = false ∧
        Tracer.Responds summingHost summingPlace renewedSession [(⟨1⟩, .compute, r)] ∧
        Tracer.Responds summingHost summingPlace z
          [(⟨2⟩, .compute, r.retold (.swapping ⟨1⟩ ⟨2⟩))] := by
  have htwins := twins_of_plain (Program.play (performWithin 1 1) note) 0 ⟨1⟩ ⟨2⟩
  have hrefers : wornSlot.Refers EntryPoint.Plain LogEntry.Plain := by
    refine ⟨fun name b hb => ?_, fun entry hentry => ?_⟩
    · obtain rfl := summingSlot_binding hb
      exact .summing .i32
    · cases hentry
      exact .accepting
  have hinstall : (Tracer.Request.install (.described summingGuest)).perform 0 summingHost
      summingPlace ⟨1⟩ wornSession = some (.done, renewedSession) :=
    Tracer.perform_install_iff.2 (.inl ⟨_, Tracer.install_eq_ok_iff.2
      ⟨wornSlot, summingGuest, rfl, summingGuest_compiles, by rfl, rfl⟩, rfl, rfl⟩)
  obtain ⟨y, houtfitted, hnew⟩ := wornSession_outfitted
  obtain ⟨⟨r, u⟩, hrun, hfailed⟩ := (Option.any_eq_true _ _).1 renewedSession_computes
  obtain ⟨-, z, hinstalled, halike⟩ :=
    install_renews htwins trivial trivial rfl rfl hrefers hinstall houtfitted hnew rfl rfl
  have hresponds : Tracer.Responds summingHost summingPlace renewedSession [(⟨1⟩, .compute, r)] :=
    .cons 30 hrun (.nil u)
  refine ⟨htwins, hrefers, rfl, hinstall, y, z, r, houtfitted, hinstalled, by simpa using hfailed,
    hresponds, (halike [(.compute, r)] ?_).1 hresponds⟩
  exact List.forall_mem_singleton.2 trivial

end EngineHost
