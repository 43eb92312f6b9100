import EngineHost.Tracer.Execution
/-
Decoding what an execution hands back.  A trace is never held to be a status,
however short it is, and a status is never malformed.
-/
namespace EngineHost

/-- A trace starts with a brace, and a status does not. -/
theorem TraceResult.isStatus_trace (t : Trace) : isStatus t.payload = false := by
  have hfirst : ∃ rest, t.payload.data.toList = 123 :: rest := by
    unfold Trace.payload Trace.json Text.JsonText.object
    rw [String.append_assoc, String.toUTF8_eq_toByteArray, String.toByteArray_append]
    exact ⟨_, rfl⟩
  obtain ⟨rest, hrest⟩ := hfirst
  unfold isStatus
  rw [hrest, Bool.and_eq_false_iff]
  exact .inr rfl

theorem TraceResult.decode_trace (t : Trace) : decode t.payload = .ok (.success t.payload) := by
  unfold decode
  rw [isStatus_trace, if_neg (by decide)]

theorem TraceResult.decode_status (status : TraceStatus) :
    decode status.payload = .ok (.failure (.ofCode status.code.toInt64)) := by
  have hstatus : isStatus status.payload = true := by cases status <;> decide +kernel
  have hcode : statusCode? (status.payload.extract statusLead.length status.payload.size) =
      some status.code.toInt64 := by cases status <;> decide +kernel
  unfold decode
  rw [if_pos hstatus, hcode]

end EngineHost
