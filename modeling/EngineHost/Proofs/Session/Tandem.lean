import EngineHost.Proofs.Session.InStep
/-
Two sessions in tandem.  They have the same engines on one side, and operations
on engines of that side are performed in both.  The engines of the side stay the
same, and those of the other side are left alone.

The sessions may have drawn different identities for their one-shot executions.
It must not happen that one of these is the identity of an engine of either side,
so these identities are reserved.
-/
namespace EngineHost

/-! ## Identities -/

namespace IdSource

/-- The identity that is drawn next is not a reserved one. -/
def Spares (reserved : EngineId → Prop) (ids : IdSource) : Prop := ¬ reserved ⟨ids.next⟩

/-- One source becomes another by draws that spare the reserved identities.  So
does the next one. -/
inductive Reaches (reserved : EngineId → Prop) (ids : IdSource) : IdSource → Prop where
  | refl (h : ids.Spares reserved) : Reaches reserved ids ids
  | draw {ids' : IdSource} (h : Reaches reserved ids ids') (hnext : ids'.draw.2.Spares reserved) :
      Reaches reserved ids ids'.draw.2

namespace Reaches

variable {reserved : EngineId → Prop} {ids ids' ids'' : IdSource}

theorem spares (h : Reaches reserved ids ids') : ids.Spares reserved := by
  induction h with
  | refl h => exact h
  | draw _ _ ih => exact ih

theorem spares_end (h : Reaches reserved ids ids') : ids'.Spares reserved := by
  cases h <;> assumption

theorem trans (h : Reaches reserved ids ids') (h' : Reaches reserved ids' ids'') :
    Reaches reserved ids ids'' := by
  induction h' with
  | refl => exact h
  | draw _ hnext ih => exact ih.draw hnext

/-- One more draw at both ends. -/
theorem draw_both (h : Reaches reserved ids ids') (hnext : ids'.draw.2.Spares reserved) :
    Reaches reserved ids.draw.2 ids'.draw.2 := by
  induction h with
  | refl => exact .refl hnext
  | draw _ hspares ih => exact (ih hspares).draw hnext

end Reaches

end IdSource

/-! ## Tandems -/

/-- Two sessions with the same engines on a side, the first of which has come from
`u` by operations on that side.  It has drawn the identities that the second one
has drawn, and perhaps more. -/
structure Tandem (handles : Std.ExtTreeMap String Handle) (side other reserved : EngineId → Prop)
    (u s s' : Session) : Prop extends Paired handles side s s' where
  left : u.Alike other s
  disjoint : ∀ id, side id → ¬ other id
  reserves : ∀ id, side id ∨ other id → reserved id
  events : s'.events = s.events
  keeps : s.handler = u.handler
  since : u.ids.Reaches reserved s.ids
  ahead : s'.ids.Reaches reserved s.ids

namespace Tandem

variable {handles : Std.ExtTreeMap String Handle} {side other reserved : EngineId → Prop}
  {u s s' : Session} (h : Tandem handles side other reserved u s s')

include h

theorem makes {t t' : Session} (h' : Tandem handles side other reserved u t t') (index : Nat) :
    ((foreignAt index).get s).Alike (fun _ => False) ((foreignAt index).get t) :=
  ((h.left.foreigns index).symm.trans (h'.left.foreigns index)).mono nofun

theorem noted (events : List Event) :
    Tandem handles side other reserved u { s with events } { s' with events } :=
  { h with
    alike := ⟨h.alike.there, h.alike.foreigns, h.alike.records⟩
    left := ⟨h.left.there, h.left.foreigns, h.left.records⟩
    events := rfl }

/-- The same slot for an engine of the side. -/
theorem held {id : EngineId} (hid : side id) {index : Nat} (hthere : (s.foreigns[index]?).isSome)
    (slot : Held) :
    Tandem handles side other reserved u
      (s.setForeign index (((foreignAt index).get s).hold id slot))
      (s'.setForeign index (((foreignAt index).get s').hold id slot)) :=
  { h with
    alike := h.alike.setForeign index ((h.alike.foreigns index).hold id slot)
    left := h.left.setForeign_right hthere
      (Foreign.alike_hold (h.alike.plain index) (h.disjoint id hid) slot) }

/-- The same change of the record of an engine of the side. -/
theorem adjusted {id : EngineId} (hid : side id)
    {f : EngineRecord Callback → EngineRecord Callback}
    (hf : ∀ r, s.directory.lookup id = some r → (f r).Kept (among handles side)) :
    Tandem handles side other reserved u { s with directory := s.directory.adjust id f }
      { s' with directory := s'.directory.adjust id f } := by
  refine { h with
    alike := ⟨h.alike.there, h.alike.foreigns, fun k hk => ?alike⟩
    left := ⟨h.left.there, h.left.foreigns, fun k hk => ?left⟩
    records := ?records }
  case alike =>
    show (s'.directory.adjust id f).lookup k = (s.directory.adjust id f).lookup k
    rw [Directory.lookup_adjust, Directory.lookup_adjust, h.alike.records k hk]
  case left =>
    show (s.directory.adjust id f).lookup k = u.directory.lookup k
    have hne : id ≠ k := fun heq => h.disjoint id hid (heq ▸ hk)
    rw [Directory.lookup_adjust, if_neg hne, h.left.records k hk]
  case records =>
    intro k r hk hr
    change (s.directory.adjust id f).lookup k = some r at hr
    rw [Directory.lookup_adjust] at hr
    split at hr
    case isFalse => exact h.records k r hk hr
    case isTrue heq =>
      subst heq
      obtain ⟨old, hold, rfl⟩ := Option.map_eq_some_iff.1 hr
      exact hf old hold

/-- A new engine in both sessions, which is on neither side. -/
theorem spawned {index : Nat} (hthere : (s.foreigns[index]?).isSome) (slot : Held)
    (hspares : s.ids.draw.2.Spares reserved) :
    Tandem handles side other reserved u (s.spawn index slot) (s'.spawn index slot) := by
  have hside : ¬ side ⟨s.ids.next⟩ :=
    fun hid => h.ahead.spares_end (h.reserves _ (.inl hid))
  have hother : ¬ other ⟨s.ids.next⟩ :=
    fun hid => h.ahead.spares_end (h.reserves _ (.inr hid))
  have hside' : ¬ side ⟨s'.ids.next⟩ :=
    fun hid => h.ahead.spares (h.reserves _ (.inl hid))
  have hplain := h.alike.plain index
  have hplain' := h.alike.symm.plain index
  refine { h with
    alike := ?alike
    left := ?left
    since := h.since.draw hspares
    ahead := h.ahead.draw_both hspares }
  case alike =>
    have hbefore : ({ s with ids := s.ids.draw.2 } : Session).Alike side
        { s' with ids := s'.ids.draw.2 } := ⟨h.alike.there, h.alike.foreigns, h.alike.records⟩
    refine hbefore.setForeign index ?_
    exact ((Foreign.alike_hold hplain hside slot).symm.trans (h.alike.foreigns index)).trans
      (Foreign.alike_hold hplain' hside' slot)
  case left =>
    have hbefore : u.Alike other { s with ids := s.ids.draw.2 } :=
      ⟨h.left.there, h.left.foreigns, h.left.records⟩
    exact hbefore.setForeign_right hthere (Foreign.alike_hold hplain hother slot)

end Tandem

/-- Operations on a side keep sessions in tandem, if no reserved identity comes up. -/
theorem tandem_congruent (handles : Std.ExtTreeMap String Handle)
    (side other reserved : EngineId → Prop) (u : Session) :
    Congruent handles side (fun t => t.ids.Spares reserved)
      (Tandem handles side other reserved u) where
  paired h := h.toPaired
  makes h h' := h.makes h'
  noted {s s'} h e := by
    have hnoted := h.noted (e :: s.events)
    rwa [← h.events] at hnoted ⊢
  held h _ hid _ hthere slot := h.held hid hthere slot
  adjusted h _ hid _ hf := h.adjusted hid hf
  spawned h _ hthere slot hP := h.spawned hthere slot hP

end EngineHost
