import EngineHost.Proofs.Resolution
import EngineHost.Proofs.Session.Lines
import EngineHost.Proofs.Session.Permanence
/-
Calls made by hand against calls made by a guest.  A call of a bound import that
is made by hand enters the entry once, with the marker of the engine and every
argument converted to the width of the entry, however the call was made.

Conversion is said over the integers: a slot holds the number closest to zero
that agrees with the argument modulo the size of the slot.  The marker is the
identity as an unsigned number, converted in the same way, so a large identity
is negative in a narrow slot and itself in a wide one.
-/
namespace EngineHost

/-! ## Numbers in slots -/

namespace CallPath

/-- How many numbers a slot can hold. -/
def size : CallPath → Nat
  | .notify | .i32 => UInt32.size
  | .i64 => UInt64.size

/-- The number that a slot holds once `n` is put into it. -/
def fit (p : CallPath) (n : Int) : Int := n.bmod p.size

/-- A wide slot holds what any narrow slot can hold, as it is. -/
theorem fit_wide_narrow (n : Int32) : CallPath.i64.fit n.toInt = n.toInt := by
  have hlower := n.le_toInt
  have hupper := n.toInt_lt
  refine Int.bmod_eq_of_le ?_ ?_
  · simp only [size, UInt64.size]
    omega
  · simp only [size, UInt64.size]
    omega

theorem fit_wide_wide (n : Int64) : CallPath.i64.fit n.toInt = n.toInt :=
  BitVec.toInt_bmod_cancel n.toBitVec

theorem fit_narrow_narrow (n : Int32) : CallPath.i32.fit n.toInt = n.toInt :=
  BitVec.toInt_bmod_cancel n.toBitVec

theorem fit_narrow_wide (n : Int64) : CallPath.i32.fit n.toInt = n.toInt32.toInt :=
  (Int64.toInt_toInt32 n).symm

end CallPath

namespace EngineId

variable (id : EngineId)

theorem narrowMarker_toInt : id.narrowMarker.toInt = CallPath.i32.fit id.val.toNat :=
  BitVec.toInt_eq_toNat_bmod id.val.toBitVec

theorem wideMarker_toInt : id.wideMarker.toInt = CallPath.i64.fit id.val.toNat := by
  have hwide : id.wideMarker.toInt = Int.bmod id.val.toUInt64.toNat (2 ^ 64) :=
    BitVec.toInt_eq_toNat_bmod id.val.toUInt64.toBitVec
  rw [hwide, UInt32.toNat_toUInt64]
  rfl

/-- The marker of a narrow call is the marker of a wide one, truncated. -/
theorem wideMarker_toInt32 : id.wideMarker.toInt32 = id.narrowMarker := by
  refine Int32.toInt_inj.1 ?_
  rw [← CallPath.fit_narrow_wide, wideMarker_toInt, narrowMarker_toInt]
  exact Int.bmod_bmod_of_dvd (by decide)

end EngineId

/-- The slots of a call as numbers, in their own width. -/
def RawCall.numbers : RawCall → List Int
  | .notify slots | .i32 slots => slots.map Int32.toInt
  | .i64 slots => slots.map Int64.toInt

namespace GuestCall

def isWide : GuestCall → Bool
  | .notify _ | .i32 _ => false
  | .i64 _ => true

def count : GuestCall → Nat
  | .notify args | .i32 args => args.length
  | .i64 args => args.length

/-- The arguments as numbers. -/
def numbers : GuestCall → List Int
  | .notify args | .i32 args => args.map Int32.toInt
  | .i64 args => args.map Int64.toInt

/-- The arguments as a guest would have them on its stack. -/
def values : GuestCall → List Guest.Value
  | .notify args | .i32 args => args.map fun n => .i32 n.toUInt32
  | .i64 args => args.map fun n => .i64 n.toUInt64

variable (c : GuestCall) (id : EngineId) (path : CallPath)

theorem raw_path : (c.raw id path).path = path := by
  cases c <;> cases path <;> rfl

/-- The slots of a call made by hand are the marker and the arguments, each
converted to the width of the path. -/
theorem raw_numbers :
    (c.raw id path).numbers = ((id.val.toNat : Int) :: c.numbers).map path.fit := by
  have hnarrow := id.narrowMarker_toInt
  have hwide := id.wideMarker_toInt
  rw [List.map_cons]
  cases c with
  | notify args | i32 args =>
    simp only [numbers, List.map_map]
    cases path with
    | notify | i32 =>
      exact congr_arg₂ List.cons hnarrow (List.map_congr_left fun n _ =>
        (CallPath.fit_narrow_narrow n).symm)
    | i64 =>
      refine congr_arg₂ List.cons hwide ?_
      show (args.map Int32.toInt64).map Int64.toInt = _
      rw [List.map_map]
      refine List.map_congr_left fun n _ => ?_
      exact (Int32.toInt_toInt64 n).trans (CallPath.fit_wide_narrow n).symm
  | i64 args =>
    simp only [numbers, List.map_map]
    cases path with
    | notify | i32 =>
      have hmarker : id.wideMarker.toInt32.toInt = CallPath.i32.fit id.val.toNat := by
        rw [id.wideMarker_toInt32, hnarrow]
      refine congr_arg₂ List.cons hmarker ?_
      show (args.map Int64.toInt32).map Int32.toInt = _
      rw [List.map_map]
      exact List.map_congr_left fun n _ => (CallPath.fit_narrow_wide n).symm
    | i64 =>
      exact congr_arg₂ List.cons hwide (List.map_congr_left fun n _ =>
        (CallPath.fit_wide_wide n).symm)

theorem raw_carries : (c.raw id path).Carries id := by
  cases c with
  | notify | i32 => cases path <;> rfl
  | i64 args =>
    cases path with
    | notify | i32 =>
      show some id.wideMarker.toInt32.toInt64 = some id.narrowMarker.toInt64
      rw [id.wideMarker_toInt32]
    | i64 => rfl

/-- In the width of a shape a call made by hand is the call that a guest makes
with the same arguments. -/
theorem raw_eq_marshal {shape : CallShape} (hwidth : c.isWide = shape.isWide) :
    c.raw id shape.path = marshal id shape.path c.values := by
  have hnotify (args : List Int32) : marshal id .notify (args.map fun n => .i32 n.toUInt32) =
      .notify (id.narrowMarker :: args) := by
    simp [marshal, List.filterMap_map]
  have hnarrow (args : List Int32) : marshal id .i32 (args.map fun n => .i32 n.toUInt32) =
      .i32 (id.narrowMarker :: args) := by
    simp [marshal, List.filterMap_map]
  have hwide (args : List Int64) : marshal id .i64 (args.map fun n => .i64 n.toUInt64) =
      .i64 (id.wideMarker :: args) := by
    simp [marshal, List.filterMap_map]
  cases c with
  | notify args | i32 args =>
    cases shape with
    | notify => exact (hnotify args).symm
    | i32 => exact (hnarrow args).symm
    | i64 => cases hwidth
  | i64 args =>
    cases shape with
    | notify | i32 => cases hwidth
    | i64 => exact (hwide args).symm

end GuestCall

/-! ## Calls that match a binding -/

/-- The arguments are of the width and the number that a shape declares. -/
structure GuestCall.Fits (c : GuestCall) (shape : CallShape) : Prop where
  width : c.isWide = shape.isWide
  count : c.count = shape.paramCount

/-- A guest can make the call: its arguments have the types under which it sees
the import. -/
theorem GuestCall.Fits.typed {c : GuestCall} {shape : CallShape} (h : c.Fits shape) :
    Guest.typesOf c.values = shape.funcType.params := by
  obtain ⟨hwidth, hcount⟩ := h
  unfold CallShape.funcType
  rw [← hwidth, ← hcount]
  cases c <;> simp [GuestCall.values, GuestCall.count, GuestCall.isWide, Guest.typesOf, Function.comp_def,
    Guest.Value.type]

/-- What a function comes to on the arguments of a call, if it takes them in
their width. -/
def HostFunction.on? {ρ : Type} (f : HostFunction ρ) (c : GuestCall) : Option ρ :=
  match f, c with
  | .notify _ _ callback, .notify args | .notify _ _ callback, .i32 args
  | .i32 _ callback, .notify args | .i32 _ callback, .i32 args => some (callback args)
  | .i64 _ callback, .i64 args => some (callback args)
  | _, _ => none

theorem GuestCall.Fits.shape_raw {c : GuestCall} {shape : CallShape} (h : c.Fits shape)
    (id : EngineId) : (c.raw id shape.path).shape = shape := by
  obtain ⟨hwidth, hcount⟩ := h
  cases shape with
  | notify n | i32 n =>
    cases c with
    | notify args | i32 args =>
      obtain rfl : args.length = n := hcount
      simp [raw, RawCall.ofNarrow, CallShape.path]
    | i64 args => cases hwidth
  | i64 n =>
    cases c with
    | notify args | i32 args => cases hwidth
    | i64 args =>
      obtain rfl : args.length = n := hcount
      simp [raw, RawCall.ofWide, CallShape.path]

/-- A function that is handed a call in the width it was made in gets the
arguments of the caller. -/
theorem GuestCall.Fits.on?_eq_of_handed {ρ : Type} {f : HostFunction ρ} {c : GuestCall}
    {shape : CallShape} (h : c.Fits shape) {id : EngineId} {callback : ρ}
    (hc : f.Handed (c.raw id shape.path) callback) : f.on? c = some callback := by
  have hwidth := h.width
  cases shape with
  | notify | i32 =>
    cases c with
    | notify | i32 =>
      cases hc
      rfl
    | i64 => cases hwidth
  | i64 =>
    cases c with
    | notify | i32 => cases hwidth
    | i64 =>
      cases hc
      rfl

/-! ## Bound names -/

namespace Scripted

/-- A name is bound in an engine, to an entry that can serve its shape. -/
structure Bound (e : Scripted) (id : EngineId) (name : String) (b : Binding) : Prop where
  found : ∃ slot, e.slots[id]? = some slot ∧ slot.bindings[name]? = some b
  accepts : b.entry.accepts b.shape = true

variable {e e' : Scripted} {id : EngineId} {name : String} {b : Binding}

/-- What an engine binds is bound in it. -/
theorem bound_of_bind? (h : e.bind? id name b = some e') : e'.Bound id name b := by
  have haccepts : b.entry.accepts b.shape = true := by
    unfold bind? at h
    split at h
    · rw [Option.ite_none_right_eq_some, Bool.and_eq_true] at h
      exact h.1.2
    · cases h
  obtain ⟨slot, -, rfl⟩ := bind?_eq_some h
  refine ⟨⟨_, by rw [slots_setSlot, if_pos rfl], ?_⟩, haccepts⟩
  exact Std.ExtTreeMap.getElem?_insert_self

theorem Bound.entry_eq (h : e.Bound id name b) : e.entry id name = .ok b.entry := by
  obtain ⟨slot, hslot, hb⟩ := h.found
  simp only [entry, hslot, hb]

theorem Bound.call_eq {σ : Type} (h : e.Bound id name b) (host : Host σ) (c : GuestCall) :
    e.call host id name c = host.enter b.entry id name (c.raw id b.entry.path) := by
  simp only [call, h.entry_eq]

end Scripted

/-- A call that carries the marker of the engine it is made for is not answered
with a mismatch of markers, whatever is registered. -/
theorem dispatchCall_unmismatched {go : Callback → Run Int32} {id : EngineId} {name : String}
    {call : RawCall} (hmarker : call.Carries id) {s t : Session}
    {answer : Except BindingFault Int32}
    (hrun : dispatchCall go id name call s = some (answer, t)) (engine : EngineId)
    (called : String) (found : Option Int64) :
    answer ≠ .error (.markerMismatch engine called found) := by
  rintro rfl
  unfold dispatchCall reporting at hrun
  obtain ⟨answer, u, hcall, hrest⟩ := Turn.bind_eq_some_iff.1 hrun
  change runCall go s.directory id name call s = _ at hcall
  unfold runCall at hcall
  have hresolves := s.directory.resolve_resolves id name call
  cases hresolve : s.directory.resolve id name call with
  | ok callback =>
    rw [hresolve] at hcall
    obtain ⟨value, v, _, ⟨⟩⟩ := Turn.bind_eq_some_iff.1 hcall
    cases hrest
  | error cause =>
    rw [hresolve] at hcall hresolves
    cases hcall
    obtain ⟨⟨⟩, w, _, ⟨⟩⟩ := Turn.bind_eq_some_iff.1 hrest
    cases hresolves with
    | unmarked _ _ hunmarked => exact hunmarked hmarker

/-- A call made by hand is made as a guest would make it.  It enters the bound
entry once, with the marker and the arguments in the width of the entry, so it
is never taken for a call of another engine.  In the width of the binding it is
the call that a guest makes with these arguments, and a function registered for
it runs on exactly the arguments of the caller. -/
theorem Scripted.call_made_as_by_guest (e : Scripted) (id : EngineId) (name : String) (b : Binding)
    (hbound : e.Bound id name b) (c : GuestCall) :
    (∀ (σ : Type) (host : Host σ),
      e.call host id name c = host.enter b.entry id name (c.raw id b.entry.path)) ∧
    (c.raw id b.entry.path).path = b.entry.path ∧
    (c.raw id b.entry.path).Carries id ∧
    (c.raw id b.entry.path).numbers = ((id.val.toNat : Int) :: c.numbers).map b.entry.path.fit ∧
    (b.entry.target = .dispatcher →
      ∀ (go : Callback → Run Int32) (s t : Session) (answer : Except BindingFault Int32),
        e.call (sessionHost go) id name c s = some (answer, t) →
          ∀ engine called found, answer ≠ .error (.markerMismatch engine called found)) ∧
    (c.isWide = b.shape.isWide → c.raw id b.entry.path = marshal id b.entry.path c.values) ∧
    (c.Fits b.shape →
      Guest.typesOf c.values = b.shape.funcType.params ∧
      (b.entry.target = .dispatcher →
        ∀ (go : Callback → Run Int32) (s : Session) (f : HostFunction Callback),
          s.directory.Registered id name f → f.shape = b.shape →
            ∃ callback, f.on? c = some callback ∧
              e.call (sessionHost go) id name c s = (do
                let value ← go callback
                return .ok (if b.entry.path = .notify then 0 else value) : Run _) s)) := by
  have hpath : b.entry.path = b.shape.path := EntryPoint.path_of_accepts hbound.accepts
  have hcarries : (c.raw id b.entry.path).Carries id := c.raw_carries id b.entry.path
  have hdispatch (htarget : b.entry.target = .dispatcher) (go : Callback → Run Int32) :
      e.call (sessionHost go) id name c = dispatchCall go id name (c.raw id b.entry.path) := by
    rw [hbound.call_eq]
    simp only [sessionHost, htarget]
  refine ⟨fun σ host => hbound.call_eq host c, c.raw_path id _, hcarries, c.raw_numbers id _,
    fun htarget go s t answer hrun => ?_, fun hwidth => ?_, fun hfits => ⟨hfits.typed, ?_⟩⟩
  case refine_1 =>
    rw [hdispatch htarget] at hrun
    exact dispatchCall_unmismatched hcarries hrun
  case refine_2 =>
    rw [hpath]
    exact c.raw_eq_marshal id hwidth
  case refine_3 =>
    intro htarget go s f hf hshape
    have hraw : f.shape = (c.raw id b.entry.path).shape := by
      rw [hpath, hfits.shape_raw, hshape]
    obtain ⟨callback, hhanded, hresolve⟩ := Directory.resolve_of_fitting hf hcarries hraw
    refine ⟨callback, ?_, ?_⟩
    · rw [hpath] at hhanded
      exact hfits.on?_eq_of_handed hhanded
    · rw [hdispatch htarget, dispatchCall_of_runs (Directory.runs_iff.2 hresolve), c.raw_path]

/-- Calls of a wide import of the engine with the largest identity.  A narrow
call puts a marker that is not negative in front of an argument that is, and a
wide one runs the function that is registered under the name. -/
theorem call_made_by_largest_identity :
    ∃ e : Scripted, (({} : Scripted).create ⟨0xFFFFFFFF⟩).bind? ⟨0xFFFFFFFF⟩ "add"
        ⟨.i64 1, .forShape (.i64 1)⟩ = some e ∧
      (∀ (σ : Type) (host : Host σ), e.call host ⟨0xFFFFFFFF⟩ "add" (.i32 [-1]) =
        host.enter (.forShape (.i64 1)) ⟨0xFFFFFFFF⟩ "add" (.i64 [0xFFFFFFFF, -1])) ∧
      ∀ (go : Callback → Run Int32) (s : Session) (callback : List Int64 → Callback),
        s.directory.Registered ⟨0xFFFFFFFF⟩ "add" (.i64 1 callback) →
          e.call (sessionHost go) ⟨0xFFFFFFFF⟩ "add" (.i64 [-5]) s = (do
            let value ← go (callback [-5])
            return .ok value : Run _) s := by
  have hslot : (({} : Scripted).create ⟨0xFFFFFFFF⟩).slots[(⟨0xFFFFFFFF⟩ : EngineId)]? =
      some { memory := Bytes.zeros 65536 } := by
    rw [Scripted.create, Scripted.slots_setSlot, if_pos rfl]
  obtain ⟨e, hbind⟩ : ∃ e, (({} : Scripted).create ⟨0xFFFFFFFF⟩).bind? ⟨0xFFFFFFFF⟩ "add"
      ⟨.i64 1, .forShape (.i64 1)⟩ = some e := by
    unfold Scripted.bind?
    rw [hslot]
    exact ⟨_, rfl⟩
  have hbound := Scripted.bound_of_bind? hbind
  refine ⟨e, hbind, (Scripted.call_made_as_by_guest _ _ _ _ hbound (.i32 [-1])).1, ?_⟩
  intro go s callback hf
  obtain ⟨-, -, -, -, -, -, hfitting⟩ :=
    Scripted.call_made_as_by_guest _ _ _ _ hbound (.i64 [-5])
  obtain ⟨_, ⟨⟩, hrun⟩ := (hfitting ⟨rfl, rfl⟩).2 rfl go s _ hf rfl
  exact hrun

end EngineHost
