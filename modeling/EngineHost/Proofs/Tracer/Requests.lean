import EngineHost.Proofs.Tracer.Operating
/-
Requests: all that can be asked of a tracing engine, each with its response.  A
request is told to one engine and goes to the operation of that name.
-/
namespace EngineHost

namespace Tracer

inductive Request where
  | create
  | install (binary : Guest.Binary)
  | compute
  | snapshot
  | patch (offset length : UInt32) (data : ByteArray)
  | bind (name : String) (binding : Binding)
  | listen (entry : LogEntry)

inductive Response where
  | done
  | bytes (bytes : ByteArray)
  | flag (value : Bool)
  | failed (cause : EngineError)

/-- Requests that change what a guest can call, or where its calls are shown. -/
def Request.Rebinds : Request → Prop
  | .bind _ _ | .listen _ => True
  | _ => False

namespace Response

def ofResult {α : Type} (f : α → Response) : Except EngineError α → Response
  | .ok a => f a
  | .error e => .failed e

/-- Something was refused, or it went wrong. -/
def Failed : Response → Prop
  | .failed _ | .flag false => True
  | _ => False

end Response

/-- Make a change, if it can be made. -/
def changing {σ : Type} (here : Place σ Tracer) (change : Tracer → Option Tracer) :
    Turn σ Response := do
  match change (← here.read) with
  | some tracer =>
    here.write tracer
    return .flag true
  | none => return .flag false

section

variable {σ : Type} (budget : Nat) (host : Host σ) (here : Place σ Tracer) (id : EngineId)

/-- What a request does, and how it is responded to. -/
def Request.perform : Request → Turn σ Response
  | .create => do
    here.write ((← here.read).create id)
    return .done
  | .install binary => do
    match (← here.read).install id binary with
    | .ok tracer =>
      here.write tracer
      return .done
    | .error e => return .failed e
  | .compute => return .ofResult .bytes (← (Tracer.compute budget host here id).run)
  | .snapshot => return .ofResult .bytes (← (Tracer.snapshot budget host here id).run)
  | .patch offset length data =>
    return .ofResult (fun _ => .done) (← (Tracer.patch budget host here id offset length data).run)
  | .bind name binding => changing here (·.bind? id name binding)
  | .listen entry => changing here (·.listen? id entry)

end

/-- Requests in order, each told to an engine, with responses that come within
some budgets. -/
inductive Responds {σ : Type} (host : Host σ) (here : Place σ Tracer) :
    σ → List (EngineId × Request × Response) → Prop where
  | nil (s : σ) : Responds host here s []
  | cons {id : EngineId} {request : Request} {r : Response}
      {rest : List (EngineId × Request × Response)} {s t : σ} (budget : Nat)
      (hrun : request.perform budget host here id s = some (r, t))
      (hrest : Responds host here t rest) : Responds host here s ((id, request, r) :: rest)

/-! ## What comes of each request -/

section

variable {σ : Type} {budget : Nat} {host : Host σ} {here : Place σ Tracer} {id : EngineId}
  {s t : σ} {r : Response}

theorem perform_create_iff :
    Request.create.perform budget host here id s = some (r, t) ↔
      r = .done ∧ t = here.set ((here.get s).create id) s := by
  constructor
  · intro h
    cases h
    exact ⟨rfl, rfl⟩
  · intro h
    obtain ⟨rfl, rfl⟩ := h
    rfl

theorem perform_install_iff {binary : Guest.Binary} :
    (Request.install binary).perform budget host here id s = some (r, t) ↔
      (∃ tracer, (here.get s).install id binary = .ok tracer ∧ r = .done ∧
        t = here.set tracer s) ∨
      ∃ e, (here.get s).install id binary = .error e ∧ r = .failed e ∧ t = s := by
  have hrun : (Request.install binary).perform budget host here id s =
      match (here.get s).install id binary with
      | .ok tracer => some (.done, here.set tracer s)
      | .error e => some (.failed e, s) := by
    show (match (here.get s).install id binary with | .ok _ => _ | .error _ => _ : Turn σ _) s = _
    cases (here.get s).install id binary <;> rfl
  rw [hrun]
  cases (here.get s).install id binary with
  | ok tracer => simp [eq_comm]
  | error e => simp [eq_comm]

theorem perform_compute_iff :
    Request.compute.perform budget host here id s = some (r, t) ↔
      ∃ result, Computing budget host here id s result t ∧ r = .ofResult .bytes result := by
  simp only [← compute_eq_some_iff]
  exact Turn.bind_pure_eq_some_iff

theorem perform_snapshot_iff :
    Request.snapshot.perform budget host here id s = some (r, t) ↔
      ∃ result, Capturing budget host here id s result t ∧
        r = .ofResult .bytes (result.map (·.image.getD .empty)) := by
  show ((snapshot budget host here id).run >>= fun result => pure (Response.ofResult .bytes result))
    s = some (r, t) ↔ _
  rw [Turn.bind_pure_eq_some_iff]
  simp only [snapshot_eq_some_iff]
  constructor
  · intro h
    obtain ⟨_, ⟨result, hcapture, rfl⟩, rfl⟩ := h
    exact ⟨result, hcapture, rfl⟩
  · intro h
    obtain ⟨result, hcapture, rfl⟩ := h
    exact ⟨_, ⟨result, hcapture, rfl⟩, rfl⟩

theorem perform_patch_iff {offset length : UInt32} {data : ByteArray} :
    (Request.patch offset length data).perform budget host here id s = some (r, t) ↔
      ∃ result, Patching budget host here id offset length data s result t ∧
        r = .ofResult (fun _ => .done) result := by
  simp only [← patch_eq_some_iff]
  exact Turn.bind_pure_eq_some_iff

theorem changing_eq_some_iff {change : Tracer → Option Tracer} :
    changing here change s = some (r, t) ↔
      (∃ tracer, change (here.get s) = some tracer ∧ r = .flag true ∧ t = here.set tracer s) ∨
      change (here.get s) = none ∧ r = .flag false ∧ t = s := by
  have hrun : changing here change s =
      match change (here.get s) with
      | some tracer => some (.flag true, here.set tracer s)
      | none => some (.flag false, s) := by
    show (match change (here.get s) with | some _ => _ | none => _ : Turn σ _) s = _
    cases change (here.get s) <;> rfl
  rw [hrun]
  cases change (here.get s) with
  | some tracer => simp [eq_comm]
  | none => simp [eq_comm]

theorem perform_bind_iff {name : String} {binding : Binding} :
    (Request.bind name binding).perform budget host here id s = some (r, t) ↔
      (∃ tracer, (here.get s).bind? id name binding = some tracer ∧ r = .flag true ∧
        t = here.set tracer s) ∨
      (here.get s).bind? id name binding = none ∧ r = .flag false ∧ t = s := changing_eq_some_iff

theorem perform_listen_iff {entry : LogEntry} :
    (Request.listen entry).perform budget host here id s = some (r, t) ↔
      (∃ tracer, (here.get s).listen? id entry = some tracer ∧ r = .flag true ∧
        t = here.set tracer s) ∨
      (here.get s).listen? id entry = none ∧ r = .flag false ∧ t = s := changing_eq_some_iff

end

end Tracer

end EngineHost
