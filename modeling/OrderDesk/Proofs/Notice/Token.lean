import OrderDesk.Proofs.Flow.Template
import OrderDesk.Proofs.Notice.Rendering

-- The token that a sale is received in. The trade of the flow and the notices of the order both name what the
-- order says. Where it says nothing, the trade takes the default of the settings and the notices take the usual
-- token, so they name the same only as long as that default is the usual one.
namespace OrderDesk

-- What an order says of the token it is paid in, for the kinds that may leave it open.
def Terms.receives? : Terms → Option (Option String)
  | stopLoss _ sale | takeProfit _ sale | conditionalSell _ sale => some sale.receiveToken
  | trailingStop terms => some terms.sale.receiveToken
  | dualProtection _ _ receive => some receive
  | _ => none

namespace Template
variable {d : FlowDefaults} {p : Params} {given : Option String}

-- A default is only seen where nothing is given.
theorem orDefault_same (given : Option String) (first second : String) :
    orDefault given first = orDefault given second ↔ (∃ token, given = some token ∧ token ≠ "") ∨ first = second := by
  unfold orDefault
  split
  · simp
  · simp
  · rename_i token names
    exact iff_of_true rfl (Or.inl ⟨token,rfl,fun empty => names (empty ▸ rfl)⟩)

-- Every draft of these kinds has one trade.
theorem draft_receives (named : p.terms.receives? = some given) : ∃ plan trade, draft d p = .ok plan ∧
    (plan.nodes.filter fun node => node.role == .executeTrade) = [trade] ∧
    trade.data.get? "receiveToken" = some (receiveOf d given) := by
  rw [draft]
  cases own : p.terms with
  | stopLoss | takeProfit | conditionalSell | trailingStop | dualProtection =>
    rw [own] at named
    cases named
    exact ⟨_,_,rfl,rfl,rfl⟩
  | _ =>
    rw [own] at named
    cases named

end Template

namespace Flow

theorem ofDraft_role (d : FlowDefaults) (owner : Json) (kind : Kind) (now : Timestamp) (plan : Draft) (role : Role) :
    (ofDraft d owner kind now plan).withRole role =
      (plan.nodes.filter fun node => node.role == role).map (DraftNode.finish owner) := by
  simp [withRole,ofDraft,List.filter_map,Function.comp_def,DraftNode.finish]

end Flow

namespace Notice
variable {o : Order} {given : Option String}

theorem receiveText_usual (given : Option String) : receiveText given = .str (Template.orDefault given usualToken) := by
  unfold receiveText Template.orDefault
  split <;> simp only

theorem termValues_receives {values : Values} (named : o.params.terms.receives? = some given) (made : termValues o = .ok values) :
    (values.find? fun entry => entry.1 == .receiveToken) = some (.receiveToken,receiveText given) := by
  rw [termValues] at made
  cases own : o.params.terms with
  | stopLoss | takeProfit | conditionalSell | dualProtection =>
    rw [own] at named made
    cases named
    cases made
    rfl
  | trailingStop terms =>
    rw [own] at named made
    cases named
    dsimp only at made
    cases marks : markValues o.trailing terms.trailPercent with
    | error fault =>
      rw [marks] at made
      cases made
    | ok =>
      rw [marks] at made
      cases made
      rfl
  | _ =>
    rw [own] at named
    cases named

-- What is said of the terms comes before the schedule, and nothing before it is a token to receive.
theorem orderValues_receives {own : Values} (named : o.params.terms.receives? = some given) (made : orderValues o = .ok own) :
    (own.find? fun entry => entry.1 == .receiveToken) = some (.receiveToken,receiveText given) := by
  rw [orderValues] at made
  cases terms : termValues o with
  | error fault =>
    rw [terms] at made
    cases made
  | ok values =>
    rw [terms] at made
    cases made
    rw [List.find?_append,List.find?_append,termValues_receives named terms]
    rfl

-- What a caller gives has the names that it was given with.
theorem givenValues_names {context : NoticeContext} {fields : Fields} (made : givenValues context = .ok fields) :
    fields.map Prod.fst = context.map Prod.fst := by
  induction context generalizing fields with
  | nil =>
    cases made
    rfl
  | cons entry rest ih =>
    obtain ⟨value,-,later⟩ := bind_eq_ok.mp made
    obtain ⟨others,read,joined⟩ := bind_eq_ok.mp later
    cases joined
    rw [List.map_cons,List.map_cons,ih read]

theorem valueOf_own {own : Values} {fields : Fields} {slot : Slot} {v : Json} (unnamed : slot.name ∉ fields.map Prod.fst)
    (found : (own.find? fun entry => entry.1 == slot) = some (slot,v)) : valueOf own fields slot = v.display := by
  have absent : Fields.get? slot.name fields = none := by
    rw [Fields.get?,Option.map_eq_none_iff,List.find?_eq_none]
    intro field member same
    exact unnamed (List.mem_map.mpr ⟨field,member,beq_iff_eq.mp same⟩)
  rw [valueOf,absent,found]

-- The wording of any event is filled with the token of the order, unless the caller names another one.
theorem render_receives {event : Event} {context : NoticeContext} {n : Notice} (named : o.params.terms.receives? = some given)
    (unnamed : Slot.receiveToken.name ∉ context.map Prod.fst) (rendered : render event o context = .ok n) :
    ∃ fill, n.body = fillBody fill (Wording.ofEvent event).lines ∧ fill .receiveToken = Template.orDefault given usualToken := by
  obtain ⟨own,made,rest⟩ := bind_eq_ok.mp rendered
  obtain ⟨fields,read,joined⟩ := bind_eq_ok.mp rest
  dsimp only at joined
  split at joined
  · cases joined
    rw [← givenValues_names read] at unnamed
    refine ⟨_,rfl,?_⟩
    rw [valueOf_own unnamed (orderValues_receives named made),receiveText_usual]
    rfl
  · cases joined

end Notice

-- The token that the flow and the notices of an order name, with any settings.
structure Order.Pays (o : Order) (d : FlowDefaults) (traded noticed : String) : Prop where
  trade : ∀ now, ∃ f node, o.flow d now = .ok f ∧ f.withRole .executeTrade = [node] ∧
    node.data.get? "receiveToken" = some (.str traded)
  notice : ∀ event context n, Slot.receiveToken.name ∉ context.map Prod.fst → Notice.render event o context = .ok n →
    ∃ fill, n.body = Notice.fillBody fill (Wording.ofEvent event).lines ∧ fill .receiveToken = noticed
  rendered : (∀ t, o.trailing = some t → t.Typed) → ∀ event, ∃ n, Notice.render event o [] = .ok n

namespace Order
variable {o : Order} {given : Option String}

theorem rendered_receives (named : o.params.terms.receives? = some given) (typed : ∀ t, o.trailing = some t → t.Typed)
    (event : Event) : ∃ n, Notice.render event o [] = .ok n := by
  have made : ∃ values, Notice.termValues o = .ok values := by
    rw [Notice.termValues]
    cases own : o.params.terms with
    | trailingStop terms =>
      obtain ⟨marks,made⟩ := Notice.markValues_made typed terms.trailPercent
      dsimp only
      rw [made]
      exact ⟨_,rfl⟩
    | stopLoss | takeProfit | conditionalSell | dualProtection => exact ⟨_,rfl⟩
    | _ =>
      rw [own] at named
      cases named
  obtain ⟨values,made⟩ := made
  obtain ⟨own,made⟩ := Notice.orderValues_made made
  exact ⟨_,Notice.render_own event made⟩

-- What the trade delivers and what the notices name, as far as the order says it, and the default of each where it does not.
theorem tokens_told (settled : o.params.Settled) (named : o.params.terms.receives? = some given) (d : FlowDefaults) :
    o.Pays d (Template.orDefault given d.receiveToken) (Template.orDefault given Notice.usualToken) ∧
      (Template.orDefault given Notice.usualToken = Template.orDefault given d.receiveToken ↔
        (∃ token, given = some token ∧ token ≠ "") ∨ Notice.usualToken = d.receiveToken) := by
  refine ⟨⟨?_,?_,rendered_receives named⟩,Template.orDefault_same given _ _⟩
  · intro now
    obtain ⟨plan,trade,drafted,only,carried⟩ := Template.draft_receives (d:=d) named
    refine ⟨_,trade.finish o.id,flow_made settled drafted now,?_,carried⟩
    rw [Flow.ofDraft_role,only]
    rfl
  · intro event context n unnamed
    exact Notice.render_receives named unnamed

-- An order that leaves its token open, and settings that sell into another token than the usual one.
def openSale : Json := .obj [("token",.str "ETH"),("triggerPrice",.int 100)]

def tethered : FlowDefaults := {FlowDefaults.standard with receiveToken := "USDT"}

theorem open_tokens_told : ∃ p, Params.parse (.str "stop-loss") openSale = .ok p ∧
    (Order.fresh "order_1" p .epoch).Pays tethered "USDT" "USDC" := by
  have taken : (Params.parse (.str "stop-loss") openSale).toOption.any (fun p => p.terms.receives? == some none) = true := by
    decide +kernel
  obtain ⟨p,parsed,named⟩ := Option.any_eq_true _ _ |>.mp taken
  have read := Checked.toOption_eq_some.mp parsed
  refine ⟨p,read,?_⟩
  exact (tokens_told (o:=Order.fresh "order_1" p .epoch) (Params.parse_settled read) (beq_iff_eq.mp named) tethered).1

end Order
end OrderDesk
