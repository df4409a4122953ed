import OrderDesk.Proofs.Desk.Enrolment

-- Flows that are made again. Whatever happens to an order, its flow can be made from the stored record at any
-- time, and is the one that its creation was answered with, but for the moment when it was made.
namespace OrderDesk

-- A flow as if it were made at that moment.
def Flow.dated (now : Timestamp) (f : Flow) : Flow := {f with metadata := Fields.set "generatedAt" (.str now.text) f.metadata}

theorem Flow.ofDraft_dated (d : FlowDefaults) (owner : Json) (kind : Kind) (past now : Timestamp) (plan : Draft) :
    (ofDraft d owner kind past plan).dated now = ofDraft d owner kind now plan := by
  simp [dated,ofDraft,metadataOf,Fields.set]

namespace Order
variable {o : Order} {d : FlowDefaults} {f : Flow}

theorem flow_again {past : Timestamp} (settled : o.params.Settled) (made : o.flow d past = .ok f) (now : Timestamp) :
    o.flow d now = .ok (f.dated now) := by
  obtain ⟨plan,drafted,rfl⟩ := flow_drafted settled made
  rw [flow_made settled drafted,Flow.ofDraft_dated]

-- Nothing that changes in an order is asked for its flow.
theorem Lasts.flow {before after : Order} (lasts : before.Lasts after) (now : Timestamp) : after.flow d now = before.flow d now := by
  rw [Order.flow,Order.flow,kind,kind,lasts.id,lasts.params]

end Order

namespace Desk

-- What a creation gave, at any later time.
structure Renews (d : Desk) (creation : Creation) (id : String) : Prop where
  again : ∀ o, d.stored id = some o → ∀ now, o.flow d.settings.flow now = .ok (creation.flow.dated now)
  registered : ∀ r, d.runtime = .registry r → r.find? creation.flow.id = some creation.flow

section
variable {d : Desk} {v : Visit} {visits : List Visit} {id : String}

theorem visit_settings (ready : d.Ready (v :: visits)) : (d.visit v).1.settings = d.settings := by
  have now := ready.timed v.now
  cases named : v.call.subject? with
  | some id =>
    obtain ⟨after,response,found,performed,changes,-⟩ := perform_effect v.call named now (ready.clocks v List.mem_cons_self)
    rw [visit,performed]
    exact changes.settings
  | none =>
    cases asked : v.call with
    | create kind params =>
      rw [visit_create asked]
      exact create_settings _ kind params
    | get id | list f p | stats =>
      rw [visit,asked]
      rfl
    | _ =>
      rw [asked] at named
      cases named

-- A new order has the flow that it was made with, and that was registered.
theorem visit_renews {creation : Creation} (ready : d.Ready (v :: visits)) (answer : (d.visit v).2 = .created (.ok creation)) :
    (d.visit v).1.stored (d.idAt 0) = some creation.order ∧ creation.flow.id = Flow.idOf (.str (d.idAt 0)) ∧
      (d.visit v).1.Renews creation (d.idAt 0) := by
  obtain ⟨given,engages,-,own⟩ := visit_engages d v
  have registered : ∀ r, (d.visit v).1.runtime = .registry r → r.find? creation.flow.id = some creation.flow := by
    intro later runs
    obtain ⟨r,-,finds⟩ := engages.ran runs
    rw [finds,own creation answer]
    simp [Option.filter]
  have settings := visit_settings ready
  have creates := perform_made (d:={d with clock := v.now}) answer
  cases asked : v.call with
  | create kind params =>
    rw [visit_create asked] at answer settings registered ⊢
    have made := Response.created.inj answer
    have here := create_written (d:={d with clock := v.now}) ready.store (timed_absent ready creates)
      (ready.clocks v List.mem_cons_self) made
    obtain ⟨o,drafts,entered⟩ := create_made made
    have named := drafts.id
    rw [nextId_place] at here named
    refine ⟨here,named,?_,registered⟩
    intro stored held now
    cases held.symm.trans here
    rw [settings,entered,(Order.entered_lasts _ _ _ _).flow]
    exact Order.flow_again drafts.new.params drafts.made now
  | _ =>
    rw [asked] at creates
    cases creates

theorem visit_renewed {creation : Creation} (ready : d.Ready (v :: visits)) (spent : d.Spent (v :: visits) id)
    (named : creation.flow.id = Flow.idOf (.str id)) (renews : d.Renews creation id) : (d.visit v).1.Renews creation id := by
  -- No visit from now on makes an order of this id.
  have later {own : String} (creates : v.call.creates = true) (first : own = d.idAt 0) : own ≠ id := by
    have more : creations (v :: visits) = creations visits + 1 := List.countP_cons_of_pos creates
    rw [first]
    exact spent 0 (by omega)
  refine ⟨?_,?_⟩
  · intro after seen now
    rw [visit_settings ready]
    rcases visit_before ready seen with ⟨before,held,rfl | effect⟩ | ⟨creates,first,-⟩
    · exact renews.again _ held now
    · rw [effect.lasts.flow]
      exact renews.again before held now
    · exact absurd rfl (later creates first)
  · intro after runs
    obtain ⟨given,engages,own,-⟩ := visit_engages d v
    obtain ⟨r,running,finds⟩ := engages.ran runs
    have other : (given.filter fun f => f.id == creation.flow.id) = none := by
      rw [Option.filter_eq_none_iff]
      intro f given
      obtain ⟨creates,owner⟩ := own f given
      rw [owner,named,beq_iff_eq]
      exact fun same => later creates rfl (Flow.idOf_injective same)
    rw [finds,other]
    exact renews.registered r running

theorem run_renewed {creation : Creation} {earlier later : List Visit} (ready : d.Ready (earlier ++ later))
    (spent : d.Spent (earlier ++ later) id) (named : creation.flow.id = Flow.idOf (.str id)) (renews : d.Renews creation id) :
    (d.run earlier).Renews creation id := by
  induction earlier generalizing d with
  | nil => exact renews
  | cons v earlier ih =>
    have leaves := visit_leaves ready
    exact ih leaves.ready (leaves.spent id spent) (visit_renewed ready spent named renews)

-- Every order that was accepted, after whatever came later.
theorem run_renews (opened : d.Opened visits) : ∀ first v rest later creation, visits = first ++ v :: (rest ++ later) →
    ((d.run first).visit v).2 = .created (.ok creation) →
      (d.run (first ++ v :: rest)).Renews creation ((d.run first).idAt 0) := by
  intro first v rest later creation split answer
  have ready := opened.ready_at split
  obtain ⟨here,named,renews⟩ := visit_renews ready answer
  have readyMade := (visit_leaves ready).ready
  have spent := stored_spent readyMade here
  have later_on : d.run (first ++ v :: rest) = (((d.run first).visit v).1).run rest := run_append d first (v :: rest)
  rw [later_on]
  exact run_renewed readyMade spent named renews

end

-- A stop that is put aside and taken up again.
def shelved : List Visit := [placed.visit,⟨.origin,.pause "order_1"⟩,⟨.epoch,.resume "order_1"⟩]

theorem shelved_renews : registering.Opened shelved ∧ ∃ creation, (registering.visit placed.visit).2 = .created (.ok creation) ∧
    (registering.run shelved).Renews creation "order_1" := by
  have empty : (vacant .memory).Opened shelved := vacant_opened fun _ _ => trivial
  have opened : registering.Opened shelved := ⟨empty.empty,empty.working,empty.clocks,empty.distinct⟩
  obtain ⟨plan,drawn⟩ := stopLoss_drawn
  obtain ⟨creation,makes⟩ := visit_drawn (v:=placed.visit) (opened_ready opened) rfl rfl drawn
  exact ⟨opened,creation,makes.answer,run_renews opened [] placed.visit _ [] creation rfl makes.answer⟩

end Desk
end OrderDesk
