import OrderDesk.Proofs.Flow.Draft
import OrderDesk.Proofs.Order.Record
import OrderDesk.Proofs.Order.Terms

-- The four shapes obey the rules, so checked parameters have a flow as soon as their draft can be made.
namespace OrderDesk

namespace Template
open Draft
variable (d : FlowDefaults) (p : Params)

theorem singleShot_sound (conditions : Group) (trade : Fields) (template name description : String) :
    (singleShot d p conditions trade template name description).Sound := by
  refine accepts_sound ?_
  simp only [singleShot,nodes,List.map,node,notice,done,wait]
  decide +kernel

theorem trailing_sound (t : TrailingTerms) (name description : String) : (trailing d p t name description).Sound := by
  refine accepts_sound ?_
  simp only [trailing,nodes,List.map,node,notice,done,wait]
  decide +kernel

theorem protection_sound (lower upper : Leg) (receive : Option String) (name description : String) :
    (protection d p lower upper receive name description).Sound := by
  refine accepts_sound ?_
  simp only [protection,branchNode,nodes,List.map,node,notice,done,wait]
  decide +kernel

theorem scheduled_sound (extra : Option Group) (interval : Number) (trade : Fields) (template name description : String) :
    (scheduled d p extra interval trade template name description).Sound := by
  refine accepts_sound ?_
  simp only [scheduled,nodes,List.map,node,notice,done,wait]
  decide +kernel

variable {d p}

-- The shapes of drafts, by the kind of order, with the guard of their trades.
inductive Shape (d : FlowDefaults) (p : Params) : Draft → Prop where
  | once {conditions : Group} {trade : Fields} {template name description : String}
      (kind : p.kind ≠ .dca ∧ p.kind ≠ .twap ∧ p.kind ≠ .trailingStop ∧ p.kind ≠ .dualProtection)
      (guard : trade.get? "guard" = some (.str "once")) : Shape d p (singleShot d p conditions trade template name description)
  | trails {t : TrailingTerms} {name description : String} (own : p.terms = .trailingStop t) :
      Shape d p (trailing d p t name description)
  | protects {lower upper : Leg} {receive : Option String} {name description : String}
      (own : p.terms = .dualProtection lower upper receive) : Shape d p (protection d p lower upper receive name description)
  | repeats {interval : Number} {trade : Fields} {template name description : String}
      (kind : p.kind = .dca ∨ p.kind = .twap) (guard : trade.get? "guard" = some (.str "per-slice")) :
      Shape d p (scheduled d p p.terms.conditions? interval trade template name description)

theorem draft_shape {plan : Draft} (drafted : draft d p = .ok plan) : Shape d p plan := by
  rw [draft] at drafted
  -- Neither how much a slice is nor how long it takes matters, and neither is to be computed.
  obtain ⟨amountOf,amounts⟩ : ∃ amountOf, Sliced.sliceAmount? = amountOf := ⟨_,rfl⟩
  obtain ⟨lengthOf,lengths⟩ : ∃ lengthOf, Sliced.sliceInterval? = lengthOf := ⟨_,rfl⟩
  rw [amounts,lengths] at drafted
  cases terms : p.terms with
  | stopLoss | takeProfit | conditionalSell | conditionalBuy | smartEntry =>
    rw [terms] at drafted
    rw [← Except.ok.inj drafted]
    refine .once ?_ rfl
    simp [Params.kind,terms,Terms.kind]
  | dca plan =>
    rw [terms] at drafted
    have own : plan.conditions = p.terms.conditions? := by rw [terms]; rfl
    rw [← Except.ok.inj drafted,own]
    exact .repeats (Or.inl (by rw [Params.kind,terms]; rfl)) rfl
  | twap plan =>
    rw [terms] at drafted
    dsimp only at drafted
    split at drafted
    · have own : plan.conditions = p.terms.conditions? := by rw [terms]; rfl
      rw [← Except.ok.inj drafted,own]
      exact .repeats (Or.inr (by rw [Params.kind,terms]; rfl)) rfl
    · cases drafted
  | trailingStop t =>
    rw [terms] at drafted
    rw [← Except.ok.inj drafted]
    exact .trails terms
  | dualProtection lower upper receive =>
    rw [terms] at drafted
    rw [← Except.ok.inj drafted]
    exact .protects terms

theorem draft_sliced {terms : Sliced} {amount length : Binary64} (own : p.terms = .twap terms)
    (amounts : terms.sliceAmount? = some amount) (lengths : terms.sliceInterval? = some length) : ∃ plan, draft d p = .ok plan := by
  rw [draft,own]
  obtain ⟨amountOf,amountsOf⟩ : ∃ amountOf, Sliced.sliceAmount? = amountOf := ⟨_,rfl⟩
  obtain ⟨lengthOf,lengthsOf⟩ : ∃ lengthOf, Sliced.sliceInterval? = lengthOf := ⟨_,rfl⟩
  rw [amountsOf] at amounts ⊢
  rw [lengthsOf] at lengths ⊢
  dsimp only
  rw [amounts,lengths]
  exact ⟨_,rfl⟩

theorem draft_sound {plan : Draft} (drafted : draft d p = .ok plan) : plan.Sound := by
  cases draft_shape drafted with
  | once kind guard => exact singleShot_sound _ _ _ _ _ _ _
  | trails own => exact trailing_sound _ _ _ _ _
  | protects own => exact protection_sound _ _ _ _ _ _ _
  | repeats kind guard => exact scheduled_sound _ _ _ _ _ _ _ _

end Template

namespace Flow
variable {d : FlowDefaults} {owner : Json} {kind : Kind} {p q : Params} {now : Timestamp} {plan : Draft} {f : Flow}

theorem generate_made (checked : p.recheck kind = .ok q) (drafted : Template.draft d q = .ok plan) :
    generate d owner kind p now = .ok (ofDraft d owner kind now plan) := by
  have obeys := ofDraft_check d owner kind now (Template.draft_sound drafted)
  rw [generate,checked]
  simp only [bind_ok,pure_ok,drafted,obeys]

-- A flow is made from a draft of checked parameters of the kind that is asked for.
theorem generate_drafted (made : generate d owner kind p now = .ok f) :
    ∃ q plan, q.kind = kind ∧ Template.draft d q = .ok plan ∧ f = ofDraft d owner kind now plan := by
  obtain ⟨q,checked,rest⟩ := bind_eq_ok.mp made
  obtain ⟨plan,drafted,-⟩ := bind_eq_ok.mp rest
  rw [generate_made checked drafted] at made
  exact ⟨q,plan,Params.recheck_kind checked,drafted,(Except.ok.inj made).symm⟩

end Flow

-- What is checked when an order is made is checked again for its flow, and stands.
theorem Order.flow_made {o : Order} {d : FlowDefaults} {plan : Draft} (settled : o.params.Settled)
    (drafted : Template.draft d o.params = .ok plan) (now : Timestamp) :
    o.flow d now = .ok (Flow.ofDraft d o.id o.kind now plan) :=
  Flow.generate_made (Params.recheck_settled settled) drafted

-- The parameters of an order are as they were checked, and its flow is made from their draft.
theorem Order.flow_drafted {o : Order} {d : FlowDefaults} {now : Timestamp} {f : Flow} (settled : o.params.Settled)
    (made : o.flow d now = .ok f) :
    ∃ plan, Template.draft d o.params = .ok plan ∧ f = Flow.ofDraft d o.id o.kind now plan := by
  obtain ⟨q,checked,rest⟩ := bind_eq_ok.mp made
  obtain ⟨plan,drafted,-⟩ := bind_eq_ok.mp rest
  rw [kind,Params.recheck_settled settled] at checked
  cases checked
  rw [flow_made settled drafted] at made
  exact ⟨plan,drafted,(Except.ok.inj made).symm⟩

end OrderDesk
