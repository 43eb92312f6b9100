import EngineHost.Proofs.Dispatch
import EngineHost.Proofs.Text.JsonReading
import EngineHost.Proofs.Tracer.Moments
/-
Reading the document back.  A reader of JSON that knows the members and the
ranges of their numbers gets back the very trace that was written, so no two
traces are written alike.  The same holds for the one call that a listener is
told of.
-/
namespace EngineHost

/-! ## Members and numbers -/

namespace Text.Json

/-- The member of this name, the first one if there are several. -/
def member? (name : String) : Json → Option Json
  | object members => members.lookup name
  | _ => none

def number? : Json → Option Int
  | number n => some n
  | _ => none

def string? : Json → Option String
  | string text => some text
  | _ => none

def array? : Json → Option (List Json)
  | array items => some items
  | _ => none

/-- A number within the range of 32 bits without a sign. -/
def uint32? (v : Json) : Option UInt32 := do
  let n ← v.number?
  if 0 ≤ n ∧ n ≤ 0xFFFFFFFF then some (UInt32.ofNat n.toNat) else none

def int32? (v : Json) : Option Int32 := do
  let n ← v.number?
  if Int32.minValue.toInt ≤ n ∧ n ≤ Int32.maxValue.toInt then some (Int32.ofInt n) else none

def int64? (v : Json) : Option Int64 := do
  let n ← v.number?
  if Int64.minValue.toInt ≤ n ∧ n ≤ Int64.maxValue.toInt then some (Int64.ofInt n) else none

theorem uint32?_number (n : UInt32) : (number n.toNat).uint32? = some n := by
  have hlt := n.toNat_lt
  have hrange : 0 ≤ (n.toNat : Int) ∧ (n.toNat : Int) ≤ 0xFFFFFFFF := by omega
  unfold uint32?
  simp only [number?, Option.bind_eq_bind, Option.bind_some]
  rw [if_pos hrange, Int.toNat_natCast, UInt32.ofNat_toNat]

theorem int32?_number (n : Int32) : (number n.toInt).int32? = some n := by
  unfold int32?
  simp only [number?, Option.bind_eq_bind, Option.bind_some]
  rw [if_pos ⟨n.minValue_le_toInt, n.toInt_le⟩, Int32.ofInt_toInt]

theorem int64?_number (n : Int64) : (number n.toInt).int64? = some n := by
  unfold int64?
  simp only [number?, Option.bind_eq_bind, Option.bind_some]
  rw [if_pos ⟨n.minValue_le_toInt, n.toInt_le⟩, Int64.ofInt_toInt]

/-- Items that are read one by one. -/
def items? {α : Type} (read? : Json → Option α) (v : Json) : Option (List α) := do
  (← v.array?).mapM read?

theorem items?_array {α : Type} {read? : Json → Option α} {write : α → Json}
    (h : ∀ x, read? (write x) = some x) (xs : List α) :
    (array (xs.map write)).items? read? = some xs := by
  show (xs.map write).mapM read? = some xs
  induction xs with
  | nil => rfl
  | cons x xs ih =>
    rw [List.map_cons, List.mapM_cons, h, ih]
    rfl

end Text.Json

open Text Text.JsonReading

/-! ## Regions, calls, traces -/

namespace Region

/-- The value that the text of a region stands for. -/
def value (r : Region) : Json := .object [
  ("offset", .number r.offset.toNat),
  ("len", .number r.length.toNat),
  ("data", .string (Hex.encode r.data))]

def ofValue? (v : Json) : Option Region := do
  let offset ← (← v.member? "offset").uint32?
  let length ← (← v.member? "len").uint32?
  let data ← Hex.decode? (← (← v.member? "data").string?)
  return { offset, length, data }

end Region

namespace HostCall

def value (c : HostCall) : Json := .object ([
    ("index", .number c.index.toNat),
    ("import", .string c.name),
    ("params", .array (c.args.map fun a => .number a.toInt))] ++
  match c.result with
  | some v => [("result", .number v.toInt)]
  | none => [])

def ofValue? (v : Json) : Option HostCall := do
  let index ← (← v.member? "index").uint32?
  let name ← (← v.member? "import").string?
  let args ← (← v.member? "params").items? Json.int64?
  match v.member? "result" with
  | some result => return { index, name, args, result := some (← result.int32?) }
  | none => return { index, name, args, result := none }

/-- A call read from the bytes of its document. -/
def read? (bytes : ByteArray) : Option HostCall := do
  ofValue? (← Json.read? (← String.fromUTF8? bytes))

end HostCall

namespace Trace

def value (t : Trace) : Json := .object [
  ("global_memory", .array (t.globalMemory.map Region.value)),
  ("memory_changes", .array (t.memoryChanges.map Region.value)),
  ("logs", .array (t.calls.map HostCall.value))]

def ofValue? (v : Json) : Option Trace := do
  let globalMemory ← (← v.member? "global_memory").items? Region.ofValue?
  let memoryChanges ← (← v.member? "memory_changes").items? Region.ofValue?
  let calls ← (← v.member? "logs").items? HostCall.ofValue?
  return { globalMemory, memoryChanges, calls }

/-- A trace read from the bytes of its document. -/
def read? (bytes : ByteArray) : Option Trace := do
  ofValue? (← Json.read? (← String.fromUTF8? bytes))

end Trace

/-! ## From values back -/

theorem Region.ofValue?_value (r : Region) : ofValue? r.value = some r := by
  simp [ofValue?, value, Json.member?, List.lookup_cons, Json.string?, Json.uint32?_number,
    Hex.decode?_encode]

theorem HostCall.ofValue?_value (c : HostCall) : ofValue? c.value = some c := by
  have hargs := Json.items?_array Json.int64?_number c.args
  obtain ⟨index, name, args, result⟩ := c
  cases result with
  | none =>
    simp [ofValue?, value, Json.member?, List.lookup_cons, Json.string?, Json.uint32?_number, hargs]
  | some result =>
    simp [ofValue?, value, Json.member?, List.lookup_cons, Json.string?, Json.uint32?_number,
      Json.int32?_number, hargs]

theorem Trace.ofValue?_value (t : Trace) : ofValue? t.value = some t := by
  simp [ofValue?, value, Json.member?, List.lookup_cons, Json.items?_array Region.ofValue?_value,
    Json.items?_array HostCall.ofValue?_value]

/-! ## From texts to values -/

theorem toString_eq_number (n : Nat) : toString n = JsonText.number n := by
  rw [JsonText.number, Decimal.write, if_neg (by omega), Int.natAbs_natCast]

/-- Texts that are made one by one. -/
theorem reads_list {α : Type} {depth : Nat} {write : α → String} {value : α → Json}
    (h : ∀ x, Reads (JsonReading.value depth) (write x) (value x)) (xs : List α) :
    Reads (JsonReading.value (depth + 1)) (JsonText.array (xs.map write))
      (.array (xs.map value)) := by
  refine reads_array depth ?_
  rw [List.forall₂_map_left_iff, List.forall₂_map_right_iff]
  exact List.forall₂_same.2 fun x _ => h x

section

variable (depth : Nat)

theorem Region.reads_json (r : Region) :
    Reads (JsonReading.value (depth + 2)) r.json r.value := by
  unfold Region.json
  rw [toString_eq_number, toString_eq_number]
  exact reads_object _ (.cons ⟨by decide, reads_number depth _⟩
    (.cons ⟨by decide, reads_number depth _⟩
    (.cons ⟨by decide, reads_string depth _⟩ .nil)))

theorem HostCall.reads_json (c : HostCall) :
    Reads (JsonReading.value (depth + 3)) c.json c.value := by
  have hargs := reads_list (fun a : Int64 => reads_number depth a.toInt) c.args
  unfold HostCall.json HostCall.value
  rw [toString_eq_number]
  refine reads_object _ (List.rel_append ?_ ?_)
  · exact .cons ⟨by decide, reads_number _ _⟩ (.cons ⟨by decide, reads_string _ _⟩
      (.cons ⟨by decide, hargs⟩ .nil))
  · cases c.result with
    | none => exact .nil
    | some v => exact .cons ⟨by decide, reads_number _ _⟩ .nil

theorem Trace.reads_json (t : Trace) : Reads (JsonReading.value (depth + 5)) t.json t.value := by
  unfold Trace.json
  have hregions (rs : List Region) := reads_list (Region.reads_json (depth + 1)) rs
  have hcalls := reads_list (HostCall.reads_json depth) t.calls
  exact reads_object _ (.cons ⟨by decide, hregions _⟩ (.cons ⟨by decide, hregions _⟩
    (.cons ⟨by decide, hcalls⟩ .nil)))

end

/-! ## The document in full -/

theorem HostCall.read?_json (c : HostCall) : read? c.json.toUTF8 = some c := by
  have hread := Json.read?_of_reads (HostCall.reads_json 125 c)
  simp only [read?, fromUTF8?_toUTF8, hread, Option.bind_eq_bind, Option.bind_some, ofValue?_value]

theorem Trace.read?_payload (t : Trace) : read? t.payload = some t := by
  have hread := Json.read?_of_reads (Trace.reads_json 123 t)
  simp only [read?, payload, fromUTF8?_toUTF8, hread, Option.bind_eq_bind, Option.bind_some,
    ofValue?_value]

/-- The document of a trace is text without control characters, and the trace is
read back from it, so no other trace has the same document.  It is the same with
the document of a call, and that of the call that an execution comes to next is
what an armed listener is given. -/
theorem Trace.document_loses_nothing :
    (∀ t : Trace, read? t.payload = some t ∧ String.fromUTF8? t.payload = some t.json ∧
      ∀ c ∈ t.json.toList, 0x20 ≤ c.toNat) ∧
    (∀ t u : Trace, (t.json = u.json ↔ t = u) ∧ (t.payload = u.payload ↔ t = u)) ∧
    (∀ item : HostCall, HostCall.read? item.json.toUTF8 = some item ∧
      String.fromUTF8? item.json.toUTF8 = some item.json ∧
      ∀ c ∈ item.json.toList, 0x20 ≤ c.toNat) ∧
    (∀ item other : HostCall, item.json.toUTF8 = other.json.toUTF8 ↔ item = other) ∧
    ∀ {σ : Type} (host : Host σ) (plan : Plan) (entry : LogEntry) (t : Trace) (name : String)
      (call : RawCall) (result : Option Int32),
      recordCall host { plan with listener := some entry } t name call.args result =
        (host.deliver entry plan.engine (t.item name call result).json.toUTF8 >>= fun answer =>
          pure (answer, t.extend (t.item name call result))) := by
  have hpayload {t u : Trace} (h : t.payload = u.payload) : t = u := by
    have hread := read?_payload t
    rw [h, read?_payload u] at hread
    exact (Option.some.inj hread).symm
  have hitem {item other : HostCall} (h : item.json.toUTF8 = other.json.toUTF8) : item = other := by
    have hread := HostCall.read?_json item
    rw [h, HostCall.read?_json other] at hread
    exact (Option.some.inj hread).symm
  refine ⟨fun t => ⟨read?_payload t, fromUTF8?_toUTF8 t.json, (reads_json 0 t).clean⟩,
    fun t u => ⟨⟨fun h => hpayload (congrArg String.toUTF8 h), congrArg json⟩,
      ⟨hpayload, congrArg payload⟩⟩,
    fun item => ⟨HostCall.read?_json item, fromUTF8?_toUTF8 item.json,
      (HostCall.reads_json 0 item).clean⟩,
    fun item other => ⟨hitem, congrArg fun c : HostCall => c.json.toUTF8⟩, ?_⟩
  intro σ host plan entry t name call result
  rfl

/-- A trace of one call, whose name has to be escaped. -/
def escapedTrace (result : Option Int32) : Trace where
  globalMemory := [{ offset := 0xFFFFFFFF, length := 2, data := ⟨#[0x0A, 0xFF]⟩ }]
  calls := [{ index := 7, name := "\"\\\n", args := [Int64.minValue], result }]

/-- Its document has the escapes in it, and tells a result of 0 from none. -/
theorem escapedTrace_read :
    Trace.read? (escapedTrace none).payload = some (escapedTrace none) ∧
      ('\\' ∈ (escapedTrace none).json.toList ∧ 0x20 ≤ '\\'.toNat) ∧
      (escapedTrace none).payload ≠ (escapedTrace (some 0)).payload := by
  obtain ⟨hread, hinjective, -⟩ := Trace.document_loses_nothing
  have hmem : '\\' ∈ (escapedTrace none).json.toList := by decide +kernel
  refine ⟨(hread _).1, ⟨hmem, (hread _).2.2 _ hmem⟩, fun h => ?_⟩
  cases (hinjective _ _).2.1 h

end EngineHost
