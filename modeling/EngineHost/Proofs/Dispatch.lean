import EngineHost.Hosting.Dispatch
import EngineHost.Proofs.Following
/-
What a call that resolves comes down to.
-/
namespace EngineHost

variable {ρ : Type}

/-- What a function's callback can come to, by the arguments it is given. -/
inductive HostFunction.Gives : HostFunction ρ → ρ → Prop where
  | notify (arity : Nat) (fixed : 1 ≤ arity ∧ arity ≤ 3) (callback : List Int32 → ρ)
      (args : List Int32) : Gives (.notify arity fixed callback) (callback args)
  | i32 (params : Nat) (callback : List Int32 → ρ) (args : List Int32) :
      Gives (.i32 params callback) (callback args)
  | i64 (params : Nat) (callback : List Int64 → ρ) (args : List Int64) :
      Gives (.i64 params callback) (callback args)

theorem EngineRecord.function_eq_ok_iff {r : EngineRecord ρ} {name : String}
    {f : HostFunction ρ} : r.function name = .ok f ↔ r.functions[name]? = some f := by
  unfold EngineRecord.function
  split
  case h_1 g hg => rw [hg, Except.ok.injEq, Option.some.injEq]
  case h_2 hg =>
    rw [hg]
    constructor
    · intro heq
      cases heq
    · intro heq
      cases heq

/-- Text survives being written as bytes. -/
theorem fromUTF8?_toUTF8 (text : String) : String.fromUTF8? text.toUTF8 = some text := by
  rw [String.toUTF8_eq_toByteArray, String.fromUTF8?, dif_pos text.isValidUTF8]
  rfl

/-- Bytes are read as a text if they are what the text is written as. -/
theorem fromUTF8?_eq_some_iff {bytes : ByteArray} {text : String} :
    String.fromUTF8? bytes = some text ↔ bytes = text.toUTF8 := by
  constructor
  · intro h
    unfold String.fromUTF8? at h
    split at h
    · cases h
      rfl
    · cases h
  · intro h
    rw [h, fromUTF8?_toUTF8]

namespace Directory

variable {d : Directory ρ} {id : EngineId} {name : String}

theorem functionOf_eq_ok_iff {f : HostFunction ρ} :
    d.functionOf id name = .ok f ↔ ∃ r, d.lookup id = some r ∧ r.functions[name]? = some f := by
  unfold functionOf
  split
  case h_1 r hr =>
    simp only [hr, Option.some.injEq, exists_eq_left', EngineRecord.function_eq_ok_iff]
  case h_2 hr =>
    rw [hr]
    constructor
    · intro heq
      cases heq
    · intro h
      obtain ⟨_, ⟨⟩, _⟩ := h

/-- A call that resolves comes down to a callback that is filed under its name. -/
theorem resolve_gives {call : RawCall} {c : ρ} (h : d.resolve id name call = .ok c) :
    ∃ r f, d.lookup id = some r ∧ r.functions[name]? = some f ∧ f.Gives c := by
  obtain ⟨f, hf, h⟩ := bind_eq_ok_iff.1 h
  obtain ⟨r, hr, hname⟩ := functionOf_eq_ok_iff.1 hf
  refine ⟨r, f, hr, hname, ?_⟩
  cases call with
  | notify slots | i32 slots | i64 slots =>
    obtain ⟨args, _, h⟩ := bind_eq_ok_iff.1 h
    dsimp only at h
    split at h
    · split at h
      · cases h
        constructor
      · cases h
    · cases h

/-- An item that resolves to something to run comes down to the subscriber. -/
theorem resolveItem_gives {item : ByteArray} {c : ρ} (h : d.resolveItem id item = .ok (some c)) :
    ∃ r f text, d.lookup id = some r ∧ r.subscriber = some f ∧ c = f text := by
  unfold resolveItem at h
  split at h
  case h_1 => cases h
  case h_2 r hr =>
    split at h
    case h_1 => cases h
    case h_2 text _ =>
      obtain ⟨f, hf, rfl⟩ := Option.map_eq_some_iff.1 (Except.ok.inj h)
      exact ⟨r, f, text, hr, hf, rfl⟩

section

variable {count : Nat} {narrow : List Int32} {wide : List Int64}

theorem resolve_notify {fixed : 1 ≤ count ∧ count ≤ 3} {callback : List Int32 → ρ}
    (hf : d.functionOf id name = .ok (.notify count fixed callback)) (hcount : narrow.length = count) :
    d.resolve id name (.notify (id.narrowMarker :: narrow)) = .ok (callback narrow) := by
  subst hcount
  unfold resolve
  rw [hf]
  simp [stripMarker, Except.mapError, bind, Except.bind]

theorem resolve_i32 {callback : List Int32 → ρ}
    (hf : d.functionOf id name = .ok (.i32 count callback)) (hcount : narrow.length = count) :
    d.resolve id name (.i32 (id.narrowMarker :: narrow)) = .ok (callback narrow) := by
  subst hcount
  unfold resolve
  rw [hf]
  simp [stripMarker, Except.mapError, bind, Except.bind]

theorem resolve_i64 {callback : List Int64 → ρ}
    (hf : d.functionOf id name = .ok (.i64 count callback)) (hcount : wide.length = count) :
    d.resolve id name (.i64 (id.wideMarker :: wide)) = .ok (callback wide) := by
  subst hcount
  unfold resolve
  rw [hf]
  simp [stripMarker, Except.mapError, bind, Except.bind]

end

end Directory

end EngineHost
