import OrderDesk.Proofs.Desk.Stamps
import OrderDesk.Proofs.Desk.Upkeep
import OrderDesk.Proofs.Trailing.Fire

-- Notices that are always rendered. An order that was made at the desk says all that the wording of any event
-- asks of it, whatever became of it since.
namespace OrderDesk

-- What holds of every order that was made at a desk with these settings.
structure Order.Kept (d : FlowDefaults) (o : Order) : Prop where
  typed : o.Typed
  stamped : o.Stamped
  charted : o.Charted d

-- Slices that a flow was made for have an amount.
theorem Template.draft_amount {d : FlowDefaults} {p : Params} {terms : Sliced} {plan : Draft} (own : p.terms = .twap terms)
    (drafted : draft d p = .ok plan) : ∃ amount, terms.sliceAmount? = some amount := by
  rw [draft,own] at drafted
  obtain ⟨amountOf,amounts⟩ : ∃ amountOf, Sliced.sliceAmount? = amountOf := ⟨_,rfl⟩
  rw [amounts] at drafted ⊢
  dsimp only at drafted
  split at drafted
  · rename_i amount length known spaced
    exact ⟨amount,known⟩
  · cases drafted

namespace Order
variable {d : FlowDefaults} {o : Order}

-- Only trailing stops have a mark, which is nothing or a float.
theorem Kept.trailing (kept : o.Kept d) {t : Trailing} (held : o.trailing = some t) : t.Typed := by
  have kind : o.params.kind = .trailingStop := kept.stamped.trailing.mp (by rw [held]; rfl)
  cases own : o.params.terms with
  | trailingStop terms =>
    obtain ⟨mark,stored,typed⟩ := kept.typed.trailing terms own
    rw [held] at stored
    cases stored
    exact typed
  | _ =>
    rw [Params.kind,own] at kind
    cases kind

end Order

theorem Effect.keeps {d : FlowDefaults} {now : Timestamp} {call : Call} {response : Response} {before after : Order}
    (effect : Effect now call response (some before) (some after)) (kept : before.Kept d) : after.Kept d :=
  ⟨effect.typed kept.typed,(kept.stamped.next effect.lasts effect.restamped).1,effect.lasts.charted kept.charted⟩

namespace Notice
variable {d : FlowDefaults} {o : Order}

theorem markValues_made {trailing : Option Trailing} (typed : ∀ t, trailing = some t → t.Typed) (percent : Binary64) :
    ∃ values, markValues trailing percent = .ok values := by
  cases trailing with
  | none => exact ⟨[],rfl⟩
  | some t =>
    obtain ⟨mark⟩ := t
    rcases typed _ rfl with none | ⟨high,float⟩
    · cases none
      exact ⟨[],rfl⟩
    · cases float
      exact ⟨_,markValues_float high percent⟩

theorem termValues_made (kept : o.Kept d) : ∃ values, termValues o = .ok values := by
  rw [termValues]
  -- What a slice amounts to is known, and is not to be computed.
  obtain ⟨amountOf,amounts⟩ : ∃ amountOf, Sliced.sliceAmount? = amountOf := ⟨_,rfl⟩
  cases own : o.params.terms with
  | twap plan =>
    obtain ⟨draft,drafted⟩ := kept.charted.drawn
    obtain ⟨amount,known⟩ := Template.draft_amount own drafted
    rw [amounts] at known ⊢
    dsimp only
    rw [known]
    exact ⟨_,rfl⟩
  | trailingStop terms =>
    obtain ⟨marks,made⟩ := markValues_made (fun _ => kept.trailing) terms.trailPercent
    dsimp only
    rw [made]
    exact ⟨_,rfl⟩
  | _ => exact ⟨_,rfl⟩

theorem orderValues_made {values : Values} (made : termValues o = .ok values) : ∃ own, orderValues o = .ok own := by
  rw [orderValues,made]
  exact ⟨_,rfl⟩

-- Any event of the order has its notice, which names both.
theorem render_made (kept : o.Kept d) (event : Event) :
    ∃ n, render event o [] = .ok n ∧ n.message.orderId = o.id ∧ n.message.event = event.name := by
  obtain ⟨values,made⟩ := termValues_made kept
  obtain ⟨own,made⟩ := orderValues_made made
  exact ⟨_,render_own event made,rfl,rfl⟩

end Notice

namespace Desk

section
variable {d : Desk} {v : Visit} {visits : List Visit}

theorem Drafts.kept {o : Order} {f : Flow} (drafts : d.Drafts o f) (auto : Bool) (reply : Reply) :
    (o.entered auto d.clock reply).Kept d.settings.flow :=
  ⟨(drafts.new.entered auto reply).typed,(drafts.new.entered auto reply).stamped,(o.entered_lasts _ _ _).charted drafts.charted⟩

-- The flow of a new order is made with the settings of the desk, and these stay.
theorem visit_kept (ready : d.Ready (v :: visits)) (kept : ∀ id o, d.stored id = some o → o.Kept d.settings.flow) :
    ∀ id o, (d.visit v).1.stored id = some o → o.Kept (d.visit v).1.settings.flow := by
  intro id o seen
  rw [visit_settings ready]
  rcases visit_before ready seen with ⟨before,held,rfl | effect⟩ | ⟨creates,-,-,creation,answer,rfl,-⟩
  · exact kept id before held
  · exact effect.keeps (kept id before held)
  · cases asked : v.call with
    | create kind params =>
      rw [visit_create asked] at answer
      obtain ⟨draft,drafts,entered⟩ := create_made (Response.created.inj answer)
      rw [entered]
      exact drafts.kept _ _
    | _ =>
      rw [asked] at creates
      cases creates

end

end Desk
end OrderDesk
