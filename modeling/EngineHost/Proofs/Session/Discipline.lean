import EngineHost.Proofs.Dispatch
import EngineHost.Session.State
/-
Disciplines: what the operations of a session are held to, in every callback
too.  An operation brings callbacks into a session, which ask operations when
they run, which bring more callbacks.  A discipline closes under all of this,
so that a session that takes in disciplined operations only holds disciplined
callbacks only.
-/
namespace EngineHost

/-- The callbacks that an operation brings into the session. -/
inductive Op.Brings : Op → Callback → Prop where
  | register {name functionName : String} {f : HostFunction Callback} {c : Callback} :
      f.Gives c → Brings (.handle name (.register functionName f)) c
  | subscribe {name : String} {subscriber : String → Callback} (item : String) :
      Brings (.handle name (.subscribe subscriber)) (subscriber item)
  | deskRegister {record functionName : String} {f : HostFunction Callback} {c : Callback} :
      f.Gives c → Brings (.desk (.register record functionName f)) c
  | deskSubscribe {record : String} {subscriber : String → Callback} (item : String) :
      Brings (.desk (.subscribe record subscriber)) (subscriber item)
  | setHandler {handler : BindingFault → Callback} (cause : BindingFault) :
      Brings (.setHandler handler) (handler cause)

structure Discipline where
  op : Op → Prop
  callback : Callback → Prop
  brings : ∀ {o c}, op o → o.Brings c → callback c
  asks : ∀ {q next}, callback (.ask q next) → op q ∧ ∀ a, callback (next a)
  notes : ∀ {what next}, callback (.note what next) → callback next

/-- No discipline at all. -/
def Discipline.none : Discipline where
  op _ := True
  callback _ := True
  brings _ _ := trivial
  asks _ := ⟨trivial, fun _ => trivial⟩
  notes _ := trivial

mutual
/-- An operation is allowed, and so is every operation that a callback it brings
can ask for. -/
inductive Op.Throughout (allowed : Op → Prop) : Op → Prop where
  | intro {o : Op} (hop : allowed o) (hbrings : ∀ c, o.Brings c → Callback.Throughout allowed c) :
      Op.Throughout allowed o

inductive Callback.Throughout (allowed : Op → Prop) : Callback → Prop where
  | done (value : Int32) : Callback.Throughout allowed (.done value)
  | ask {q : Op} {next : Answer → Callback} (hop : Op.Throughout allowed q)
      (hnext : ∀ a, Callback.Throughout allowed (next a)) :
      Callback.Throughout allowed (.ask q next)
  | note {what : Event} {next : Callback} (hnext : Callback.Throughout allowed next) :
      Callback.Throughout allowed (.note what next)
end

/-- The discipline of allowed operations. -/
def Discipline.throughout (allowed : Op → Prop) : Discipline where
  op := Op.Throughout allowed
  callback := Callback.Throughout allowed
  brings := by
    intro o c hx h
    obtain ⟨_, hbrings⟩ := hx
    exact hbrings c h
  asks := by
    intro q next heq
    cases heq
    exact ⟨‹_›, ‹_›⟩
  notes := by
    intro what next heq
    cases heq
    assumption

/-! ## Disciplined sessions -/

section

variable (d : Discipline)

/-- Every callback of a record is disciplined. -/
structure EngineRecord.Kept (r : EngineRecord Callback) : Prop where
  functions : ∀ (name : String) (f : HostFunction Callback),
    r.functions[name]? = some f → ∀ c, f.Gives c → d.callback c
  subscriber : ∀ f, r.subscriber = some f → ∀ item, d.callback (f item)

def Directory.Kept (dir : Directory Callback) : Prop :=
  ∀ id r, dir.lookup id = some r → r.Kept d

structure Desk.Kept (desk : Desk) : Prop where
  directory : desk.directory.Kept d
  drafts : ∀ (name : String) (r : EngineRecord Callback),
    desk.drafts[name]? = some (.loose r) → r.Kept d

/-- Every callback that a session holds is disciplined. -/
structure Session.Kept (s : Session) : Prop where
  directory : s.directory.Kept d
  handler : ∀ f, s.handler = some f → ∀ cause, d.callback (f cause)
  desk : s.desk.Kept d

end

section

variable {d : Discipline}

theorem EngineRecord.kept_empty (id : EngineId) : ({ id } : EngineRecord Callback).Kept d := by
  constructor
  · intro name f h
    rw [Std.ExtTreeMap.getElem?_empty] at h
    cases h
  · intro f heq
    cases heq

theorem EngineRecord.Kept.register {r filed : EngineRecord Callback} {name : String}
    {f : HostFunction Callback} (h : r.Kept d) (hf : ∀ c, f.Gives c → d.callback c)
    (hfiled : r.register name f = .ok filed) : filed.Kept d := by
  obtain ⟨_, rfl⟩ := EngineRecord.register_eq_ok_iff.1 hfiled
  constructor
  · intro k g hg
    rw [Std.ExtTreeMap.getElem?_insert] at hg
    split at hg
    · cases hg
      exact hf
    · exact h.functions k g hg
  · exact h.subscriber

theorem EngineRecord.Kept.subscribe {r : EngineRecord Callback} (h : r.Kept d)
    {subscriber : Option (String → Callback)}
    (hs : ∀ f, subscriber = some f → ∀ item, d.callback (f item)) :
    ({ r with subscriber } : EngineRecord Callback).Kept d :=
  ⟨h.functions, hs⟩

theorem Directory.kept_empty : ({} : Directory Callback).Kept d := by
  intro id r h
  rw [Directory.lookup, Std.ExtTreeMap.getElem?_empty] at h
  cases h

theorem Directory.Kept.insert {dir dir' : Directory Callback} {r : EngineRecord Callback}
    (h : dir.Kept d) (hr : r.Kept d) (hinsert : dir.insert? r = some dir') : dir'.Kept d := by
  intro id record hrecord
  rw [Directory.lookup_insert? hinsert] at hrecord
  split at hrecord
  · cases hrecord
    exact hr
  · exact h id record hrecord

theorem Directory.Kept.adjust {dir : Directory Callback} {id : EngineId}
    {f : EngineRecord Callback → EngineRecord Callback} (h : dir.Kept d)
    (hf : ∀ r, r.Kept d → (f r).Kept d) : (dir.adjust id f).Kept d := by
  intro k record hrecord
  rw [Directory.lookup_adjust] at hrecord
  split at hrecord
  · obtain ⟨r, hr, rfl⟩ := Option.map_eq_some_iff.1 hrecord
    exact hf r (h k r hr)
  · exact h k record hrecord

/-- A call that resolves runs a callback of the directory. -/
theorem Directory.Kept.resolve {dir : Directory Callback} (h : dir.Kept d) {id : EngineId}
    {name : String} {call : RawCall} {c : Callback} (hc : dir.resolve id name call = .ok c) :
    d.callback c := by
  obtain ⟨r, f, hr, hf, hgives⟩ := Directory.resolve_gives hc
  exact (h id r hr).functions name f hf c hgives

theorem Directory.Kept.resolveItem {dir : Directory Callback} (h : dir.Kept d) {id : EngineId}
    {item : ByteArray} {c : Callback} (hc : dir.resolveItem id item = .ok (some c)) :
    d.callback c := by
  obtain ⟨r, f, text, hr, hf, rfl⟩ := Directory.resolveItem_gives hc
  exact (h id r hr).subscriber f hf text

end

end EngineHost
