import EngineHost.Proofs.Dispatch
import EngineHost.Proofs.Text.Decimal
import EngineHost.Proofs.Text.Lossy
import EngineHost.Witness.Outcome
/-
The payloads that are statuses.  A payload is a trace unless it is short and
starts like a status, and then it is a status if a numeral follows and malformed
if anything else does.  A payload that short has no room for a numeral beyond 64
bits, so no malformed status is one for the size of its code.
-/
namespace EngineHost

/-- The failure that a code announces. -/
inductive TraceFailure.Tells : TraceFailure → Int → Prop where
  | outOfGas : Tells .outOfGas 1
  | executionReverted : Tells .executionReverted 2
  | stopToken : Tells .stopToken 3
  | unknown {v : Int} (hgas : v ≠ 1) (hrevert : v ≠ 2) (hstop : v ≠ 3) : Tells .unknown v

/-- A payload that is a status by its looks: short enough to be looked at, and
`error:` in front. -/
def LooksStatus (payload : ByteArray) : Prop :=
  payload.size < 15 ∧ "error:".toUTF8.data.toList <+: payload.data.toList

/-- A status payload with the text that follows `error:`, a numeral for `v`. -/
def Announces (payload : ByteArray) (text : String) (v : Int) : Prop :=
  payload.size < 15 ∧ payload = ("error:" ++ text).toUTF8 ∧ Text.Decimal.Numeral text.toList v

/-- What a payload is decoded to, by the grammar of statuses. -/
inductive Decodes (payload : ByteArray) : Except HostError TraceResult → Prop where
  | trace (h : ¬ LooksStatus payload) : Decodes payload (.ok (.success payload))
  | status {text : String} {v : Int} {cause : TraceFailure} (h : Announces payload text v)
      (hcause : cause.Tells v) : Decodes payload (.ok (.failure cause))
  | malformed (h : LooksStatus payload) (hnone : ∀ text v, ¬ Announces payload text v) :
      Decodes payload (.error (.malformedStatus (Text.Lossy.text payload)))

namespace TraceFailure

/-- A code announces the failure that is made of it. -/
theorem ofCode_tells (code : Int64) : (ofCode code).Tells code.toInt := by
  have hcode (n : Int64) (v : Int) (hv : n.toInt = v) (hne : code ≠ n) : code.toInt ≠ v :=
    fun h => hne (Int64.toInt_inj.1 (h.trans hv.symm))
  unfold ofCode TraceStatus.ofCode?
  split_ifs with h0 h1 h2 h3 h4
  · subst h0; exact .unknown (by decide) (by decide) (by decide)
  · subst h1; exact .outOfGas
  · subst h2; exact .executionReverted
  · subst h3; exact .stopToken
  all_goals
    exact .unknown (hcode 1 1 rfl h1) (hcode 2 2 rfl h2) (hcode 3 3 rfl h3)

theorem Tells.unique {c c' : TraceFailure} {v : Int} (h : c.Tells v) (h' : c'.Tells v) : c = c' := by
  cases h <;> cases h' <;> first | rfl | contradiction

end TraceFailure

theorem statusLead_eq : statusLead = "error:".toUTF8.data.toList := by decide

theorem toUTF8_status (text : String) :
    ("error:" ++ text).toUTF8 = "error:".toUTF8 ++ text.toUTF8 := String.toByteArray_append

theorem LooksStatus.eq_append {payload : ByteArray} (h : LooksStatus payload) :
    payload = "error:".toUTF8 ++ payload.extract statusLead.length payload.size := by
  obtain ⟨-, rest, hrest⟩ := h
  have hpayload : payload = "error:".toUTF8 ++ ⟨rest.toArray⟩ :=
    ByteArray.ext (Array.toList_inj.1 (by rw [← hrest, ByteArray.data_append, Array.toList_append]))
  have htail : payload.extract statusLead.length payload.size = ⟨rest.toArray⟩ := by
    rw [hpayload, ByteArray.size_append]
    exact ByteArray.extract_append_eq_right rfl rfl
  rw [htail]
  exact hpayload

/-- What follows `error:` is what the code is read from. -/
theorem LooksStatus.eq_toUTF8_iff {payload : ByteArray} (h : LooksStatus payload) {text : String} :
    payload = ("error:" ++ text).toUTF8 ↔
      payload.extract statusLead.length payload.size = text.toUTF8 := by
  nth_rewrite 1 [h.eq_append]
  rw [toUTF8_status, ByteArray.append_right_inj]

namespace Announces

variable {payload : ByteArray} {text : String} {v : Int}

theorem size_eq (h : Announces payload text v) : payload.size = 6 + text.length := by
  obtain ⟨-, hpayload, hnumeral⟩ := h
  rw [hpayload, toUTF8_status, ByteArray.size_append, hnumeral.size_toUTF8]
  rfl

theorem looksStatus (h : Announces payload text v) : LooksStatus payload := by
  obtain ⟨hsize, hpayload, -⟩ := h
  refine ⟨hsize, ?_⟩
  rw [hpayload, toUTF8_status, ByteArray.data_append, Array.toList_append]
  exact List.prefix_append _ _

/-- The room that is left below the threshold is too small for a numeral to
leave 64 bits. -/
theorem exists_code (h : Announces payload text v) : ∃ code : Int64, code.toInt = v := by
  have hlength : text.toList.length ≤ 8 := by
    have hshort := h.1
    rw [h.size_eq] at hshort
    rw [String.length_toList]
    omega
  have hlt : v.natAbs < 10 ^ 8 :=
    Nat.lt_of_lt_of_le h.2.2.natAbs_lt (Nat.pow_le_pow_right (by decide) hlength)
  have hmin : Int64.minValue.toInt = -9223372036854775808 := rfl
  have hmax : Int64.maxValue.toInt = 9223372036854775807 := rfl
  exact ⟨.ofInt v, Int64.toInt_ofInt_of_le (by omega) (by omega)⟩

theorem unique {text' : String} {v' : Int} (h : Announces payload text v)
    (h' : Announces payload text' v') : v = v' := by
  obtain ⟨-, hpayload, hnumeral⟩ := h
  obtain ⟨-, hpayload', hnumeral'⟩ := h'
  have htext : "error:" ++ text = "error:" ++ text' :=
    String.toByteArray_inj.1 (hpayload.symm.trans hpayload')
  rw [String.append_right_inj] at htext
  subst htext
  exact hnumeral.unique hnumeral'

end Announces

namespace TraceResult

variable {payload : ByteArray}

theorem isStatus_iff : isStatus payload = true ↔ LooksStatus payload := by
  unfold isStatus LooksStatus
  rw [Bool.and_eq_true, decide_eq_true_iff, List.isPrefixOf_iff_prefix, statusLead_eq]
  rfl

theorem statusCode?_eq_some_iff (h : LooksStatus payload) {code : Int64} :
    statusCode? (payload.extract statusLead.length payload.size) = some code ↔
      ∃ text, Announces payload text code.toInt := by
  unfold statusCode?
  rw [Option.bind_eq_some_iff]
  refine exists_congr fun text => ?_
  rw [fromUTF8?_eq_some_iff, Text.Decimal.int64?_eq_some_iff, ← h.eq_toUTF8_iff]
  exact ⟨fun hread => ⟨h.1, hread⟩, fun htext => htext.2⟩

end TraceResult

namespace Decodes

variable {payload : ByteArray} {r r' : Except HostError TraceResult}

theorem unique (h : Decodes payload r) (h' : Decodes payload r') : r = r' := by
  cases h with
  | trace h =>
    cases h' with
    | trace => rfl
    | status h' => exact absurd h'.looksStatus h
    | malformed h' => exact absurd h' h
  | status h hcause =>
    cases h' with
    | trace h' => exact absurd h.looksStatus h'
    | status h' hcause' =>
      cases h.unique h'
      rw [hcause.unique hcause']
    | malformed _ hnone => exact absurd h (hnone _ _)
  | malformed h hnone =>
    cases h' with
    | trace h' => exact absurd h h'
    | status h' => exact absurd h' (hnone _ _)
    | malformed => rfl

theorem decode (payload : ByteArray) : Decodes payload (TraceResult.decode payload) := by
  unfold TraceResult.decode
  split
  case isFalse h => exact .trace (mt TraceResult.isStatus_iff.2 h)
  case isTrue h =>
    have hlooks := TraceResult.isStatus_iff.1 h
    split
    case h_1 code hcode =>
      obtain ⟨text, htext⟩ := (TraceResult.statusCode?_eq_some_iff hlooks).1 hcode
      exact .status htext (TraceFailure.ofCode_tells code)
    case h_2 hnone =>
      refine .malformed hlooks fun text v htext => ?_
      obtain ⟨code, rfl⟩ := htext.exists_code
      rw [(TraceResult.statusCode?_eq_some_iff hlooks).2 ⟨text, htext⟩] at hnone
      cases hnone

end Decodes

/-- A code is announced by `error:` and its decimal text if there is room for the text. -/
theorem announces_write_iff (v : Int) :
    Announces ("error:" ++ Text.Decimal.write v).toUTF8 (Text.Decimal.write v) v ↔
      (Text.Decimal.write v).length ≤ 8 := by
  have hnumeral := Text.Decimal.Numeral.write v
  have hsize : ("error:" ++ Text.Decimal.write v).toUTF8.size =
      6 + (Text.Decimal.write v).length := by
    rw [toUTF8_status, ByteArray.size_append, hnumeral.size_toUTF8]
    rfl
  constructor
  · intro h
    have hshort := h.1
    omega
  · exact fun h => ⟨by omega, rfl, hnumeral⟩

/-- Decoding is what the grammar of statuses says, over all payloads.  A short
payload that starts with `error:` is malformed for its syntax alone, since a
numeral that fits in it is a code, and a code whose text fits comes back.  A
malformed payload that is text comes back as that text. -/
theorem TraceResult.decode_by_grammar :
    (∀ (payload : ByteArray) (r : Except HostError TraceResult),
      decode payload = r ↔ Decodes payload r) ∧
    (∀ (payload : ByteArray) (text : String) (v : Int),
      Announces payload text v → ∃ code : Int64, code.toInt = v) ∧
    (∀ code : Int64,
      decode ("error:" ++ Text.Decimal.write code.toInt).toUTF8 = .ok (.failure (.ofCode code)) ↔
        (Text.Decimal.write code.toInt).length ≤ 8) ∧
    ∀ text shown : String, decode text.toUTF8 = .error (.malformedStatus shown) → shown = text := by
  have hdecode (payload : ByteArray) (r : Except HostError TraceResult) :
      decode payload = r ↔ Decodes payload r :=
    ⟨fun h => h ▸ Decodes.decode payload, (Decodes.decode payload).unique⟩
  refine ⟨hdecode, fun payload text v h => h.exists_code, fun code => ?_, fun text shown h => ?_⟩
  · rw [hdecode, ← announces_write_iff]
    constructor
    · intro h
      cases h with
      | status h => exact ⟨h.1, rfl, .write _⟩
    · exact fun h => .status h (TraceFailure.ofCode_tells code)
  · rw [hdecode] at h
    cases h with
    | malformed => exact Text.Lossy.text_toUTF8 text

/-- A sign and leading zeros are read, and a bare sign is not. -/
theorem TraceResult.decode_signed :
    Announces "error:+0002".toUTF8 "+0002" 2 ∧ (∃ code : Int64, code.toInt = 2) ∧
      decode "error:+0002".toUTF8 = .ok (.failure .executionReverted) ∧
      (∃ shown, decode "error:-".toUTF8 = .error (.malformedStatus shown) ∧ shown = "error:-") := by
  have hannounces : Announces "error:+0002".toUTF8 "+0002" 2 :=
    ⟨by decide, rfl, Text.Decimal.signed?_eq_some_iff.1 (by decide +kernel)⟩
  have hmalformed : decode "error:-".toUTF8 =
      .error (.malformedStatus (Text.Lossy.text "error:-".toUTF8)) := by decide +kernel
  obtain ⟨hdecode, hcode, -, hshown⟩ := decode_by_grammar
  exact ⟨hannounces, hcode _ _ _ hannounces, (hdecode _ _).2 (.status hannounces .executionReverted),
    _, hmalformed, hshown _ _ hmalformed⟩

/-- Fifteen bytes are too many for a status. -/
example : TraceResult.decode "error:123456789".toUTF8 = .ok (.success "error:123456789".toUTF8) ∧
    TraceResult.decode "error:12345678".toUTF8 = .ok (.failure .unknown) := by
  decide +kernel

end EngineHost
