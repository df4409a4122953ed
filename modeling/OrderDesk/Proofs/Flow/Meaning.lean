import OrderDesk.Proofs.Order.Restore
import OrderDesk.Proofs.Schedule.Check
import OrderDesk.Proofs.Trailing.Check

-- What the checks of a flow mean. Each check decides what the parameters of the order say: how a field of the
-- snapshot compares with a number, what the conditions of the user decide, or both.
namespace OrderDesk

abbrev Verdict := Snapshot → Except Fault Bool

namespace Verdict

-- One field against one number.
def compares (op : Operator) (field : String) (bound : Binary64) : Verdict :=
  fun snapshot => op.compare (Snapshot.resolve snapshot field) (.float bound)

-- What is derived, and the conditions of the user where there are any.
def both (own : Verdict) (extra : Option Group) : Verdict := fun snapshot =>
  (own snapshot).bind fun met => if met then extra.elim (.ok true) fun g => g.evaluate snapshot else .ok false

end Verdict

namespace Terms
open Verdict

def scheduleVerdicts (extra : Option Group) : List (String × Verdict) :=
  [("check-schedule",both (compares .lte "schedule.secondsUntilDue" 0) extra),
    ("check-remaining",compares .ne "schedule.remainingExecutions" 0)]

-- The checks of a kind of order, by the keys of their nodes, and what each decides.
def verdicts : Terms → List (String × Verdict)
  | stopLoss trigger _ => [("check-condition",compares .lte "price" trigger)]
  | takeProfit trigger _ => [("check-condition",compares .gte "price" trigger)]
  | conditionalSell conditions _ | conditionalBuy conditions _ | smartEntry conditions _ _ _ =>
    [("check-condition",conditions.evaluate)]
  | dca plan => scheduleVerdicts plan.conditions
  | twap plan => scheduleVerdicts plan.conditions
  | trailingStop t => [("check-condition",both (compares .eq "trailing.triggered" 1) t.activation)]
  | dualProtection lower upper _ =>
    [("check-stop-loss",lower.conditions.evaluate),("check-take-profit",upper.conditions.evaluate)]

end Terms

namespace Template
open Verdict

theorem alone_evaluate (own : Condition) : (Group.allOf [.leaf own]).evaluate = own.met :=
  funext fun snapshot => Node.evaluateAll_single snapshot (.leaf own)

theorem withExtra_both (own : Condition) (extra : Option Group) : (withExtra own extra).evaluate = both own.met extra :=
  funext fun snapshot => withExtra_evaluate own extra snapshot

theorem threshold_admitted {test : Test} (sound : test.Admitted) : (threshold test).Admitted := by
  intro child member
  rw [List.mem_singleton.mp member]
  exact .leaf ⟨by simp,sound⟩

end Template

namespace Flow
variable {d : FlowDefaults} {owner : Json} {kind : Kind} {now : Timestamp} {plan : Draft}

-- The checks of a flow are the ones that are listed, and each asks what decides as the list says.
structure Decides (f : Flow) (owner : Json) (verdicts : List (String × Verdict)) : Prop where
  checks : (f.withRole .checkCondition).map FlowNode.id = verdicts.map fun check => Draft.nodeId owner check.1
  asks : ∀ key verdict, (key,verdict) ∈ verdicts → ∃ g, f.Asks (Draft.nodeId owner key) g ∧
    ∀ snapshot, g.evaluate snapshot = verdict snapshot

theorem ofDraft_decides (asked : List (String × Group))
    (listed : (plan.nodes.filter fun node => node.role == .checkCondition).map DraftNode.key = asked.map Prod.fst)
    (carried : ∀ key g, (key,g) ∈ asked → g.Admitted ∧ ∃ node, (plan.nodes.find? fun node => node.key == key) = some node ∧
      node.data.get? "conditions" = some g.toJson) :
    (ofDraft d owner kind now plan).Decides owner (asked.map fun check => (check.1,check.2.evaluate)) := by
  constructor
  · have kept : (ofDraft d owner kind now plan).withRole .checkCondition =
        (plan.nodes.filter fun node => node.role == .checkCondition).map (DraftNode.finish owner) := by
      simp [withRole,ofDraft,List.filter_map,Function.comp_def,DraftNode.finish]
    have keys := congrArg (List.map (Draft.nodeId owner)) listed
    simpa [kept,DraftNode.finish,Function.comp_def] using keys
  · intro key verdict member
    obtain ⟨⟨name,g⟩,given,same⟩ := List.mem_map.mp member
    cases same
    obtain ⟨admitted,node,found,carries⟩ := carried name g given
    exact ⟨g,ofDraft_asks found carries admitted,fun snapshot => rfl⟩

end Flow

namespace Template
open OrderDesk.Flow
variable {d : FlowDefaults} {p : Params} {owner : Json} {kind : Kind} {now : Timestamp}

theorem singleShot_decides {conditions : Group} (admitted : conditions.Admitted) (trade : Fields) (template name description : String) :
    (ofDraft d owner kind now (singleShot d p conditions trade template name description)).Decides owner
      [("check-condition",conditions.evaluate)] := by
  refine ofDraft_decides [("check-condition",conditions)] rfl ?_
  intro key g member
  cases List.mem_singleton.mp member
  exact ⟨admitted,_,rfl,rfl⟩

theorem scheduled_decides {extra : Option Group} (admitted : ∀ g, extra = some g → g.Admitted) (interval : Number) (trade : Fields)
    (template name description : String) :
    (ofDraft d owner kind now (scheduled d p extra interval trade template name description)).Decides owner
      (Terms.scheduleVerdicts extra) := by
  have decides : (ofDraft d owner kind now (scheduled d p extra interval trade template name description)).Decides owner
      [("check-schedule",(withExtra due extra).evaluate),("check-remaining",(Group.allOf [.leaf remaining]).evaluate)] := by
    refine ofDraft_decides [("check-schedule",withExtra due extra),("check-remaining",.allOf [.leaf remaining])] rfl ?_
    intro key g member
    rcases List.mem_cons.mp member with same | later
    · cases same
      exact ⟨withExtra_admitted due_admitted admitted,_,rfl,rfl⟩
    · cases List.mem_singleton.mp later
      have alone : (withExtra remaining none).Admitted := withExtra_admitted remaining_admitted fun g given => by cases given
      exact ⟨alone,_,rfl,rfl⟩
  rw [withExtra_both,alone_evaluate] at decides
  exact decides

theorem trailing_decides {t : TrailingTerms} (admitted : ∀ g, t.activation = some g → g.Admitted) (name description : String) :
    (ofDraft d owner kind now (trailing d p t name description)).Decides owner (Terms.trailingStop t).verdicts := by
  have decides : (ofDraft d owner kind now (trailing d p t name description)).Decides owner
      [("check-condition",(withExtra triggered t.activation).evaluate)] := by
    refine ofDraft_decides [("check-condition",withExtra triggered t.activation)] rfl ?_
    intro key g member
    cases List.mem_singleton.mp member
    exact ⟨withExtra_admitted triggered_admitted admitted,_,rfl,rfl⟩
  rw [withExtra_both] at decides
  exact decides

theorem protection_decides {lower upper : Leg} (first : lower.conditions.Admitted) (second : upper.conditions.Admitted)
    (receive : Option String) (name description : String) :
    (ofDraft d owner kind now (protection d p lower upper receive name description)).Decides owner
      (Terms.dualProtection lower upper receive).verdicts := by
  refine ofDraft_decides [("check-stop-loss",lower.conditions),("check-take-profit",upper.conditions)] rfl ?_
  intro key g member
  rcases List.mem_cons.mp member with same | later
  · cases same
    exact ⟨first,_,rfl,rfl⟩
  · cases List.mem_singleton.mp later
    exact ⟨second,_,rfl,rfl⟩

theorem threshold_decides (test : Test) (sound : test.Admitted) (trade : Fields) (template name description : String) :
    (ofDraft d owner kind now (singleShot d p (threshold test) trade template name description)).Decides owner
      [("check-condition",Condition.met ⟨"price",test⟩)] := by
  have decides : (ofDraft d owner kind now (singleShot d p (threshold test) trade template name description)).Decides owner
      [("check-condition",(threshold test).evaluate)] :=
    singleShot_decides (threshold_admitted sound) trade template name description
  rw [threshold,alone_evaluate] at decides
  exact decides

-- By the kind of order; a price is compared as the test of its threshold compares it.
theorem draft_decides (admitted : p.terms.Admitted) {plan : Draft} (drafted : draft d p = .ok plan) :
    (ofDraft d owner kind now plan).Decides owner p.terms.verdicts := by
  rw [draft] at drafted
  -- Neither how much a slice is nor how long it takes matters, and neither is to be computed.
  obtain ⟨amountOf,amounts⟩ : ∃ amountOf, Sliced.sliceAmount? = amountOf := ⟨_,rfl⟩
  obtain ⟨lengthOf,lengths⟩ : ∃ lengthOf, Sliced.sliceInterval? = lengthOf := ⟨_,rfl⟩
  rw [amounts,lengths] at drafted
  cases terms : p.terms with
  | stopLoss trigger sale =>
    rw [terms] at drafted admitted
    rw [← Except.ok.inj drafted]
    exact threshold_decides (.atMost trigger) admitted _ _ _ _
  | takeProfit trigger sale =>
    rw [terms] at drafted admitted
    rw [← Except.ok.inj drafted]
    exact threshold_decides (.atLeast trigger) admitted _ _ _ _
  | conditionalSell conditions sale | conditionalBuy conditions purchase | smartEntry conditions purchase budget cooldownMinutes =>
    rw [terms] at drafted admitted
    rw [← Except.ok.inj drafted]
    exact singleShot_decides admitted _ _ _ _
  | dca plan =>
    rw [terms] at drafted admitted
    rw [← Except.ok.inj drafted]
    exact scheduled_decides admitted _ _ _ _ _
  | twap plan =>
    rw [terms] at drafted admitted
    dsimp only at drafted
    split at drafted
    · rw [← Except.ok.inj drafted]
      exact scheduled_decides admitted _ _ _ _ _
    · cases drafted
  | trailingStop t =>
    rw [terms] at drafted admitted
    rw [← Except.ok.inj drafted]
    exact trailing_decides admitted _ _
  | dualProtection lower upper receive =>
    rw [terms] at drafted admitted
    rw [← Except.ok.inj drafted]
    exact protection_decides admitted.1 admitted.2 receive _ _

end Template

namespace Order

-- What the flow of an order decides is what its parameters say, also once the order has been written and read.
structure Means (o : Order) : Prop where
  decides : ∀ d now f, o.flow d now = .ok f → f.Decides o.id o.params.terms.verdicts
  restored : ∀ later, ∃ again, ofJson later o.toJson = .ok again ∧ ∀ d now, again.flow d now = o.flow d now
  made : (∀ plan, o.params.terms = .twap plan → (Number.int plan.slices).toFloat?.isSome = true) →
    ∀ d now, ∃ f, o.flow d now = .ok f

theorem flow_means {o : Order} (validated : o.params.Validated) : o.Means := by
  have settled := validated.settled
  refine ⟨?_,?_,flow_counted settled⟩
  · intro d now f made
    obtain ⟨plan,drafted,rfl⟩ := flow_drafted settled made
    exact Template.draft_decides (Terms.ofFields_admitted settled.terms) drafted
  · intro later
    exact ⟨o.told,ofJson_written settled later,fun d now => rfl⟩

theorem halfDone_means : ∃ p, Params.ofFields .dca nested = .ok p ∧ (halfDone p .origin .epoch).Means ∧
    ∀ d now, ∃ f, (halfDone p .origin .epoch).flow d now = .ok f := by
  obtain ⟨p,read⟩ := nested_read
  have kind : p.terms.kind = .dca := (Params.ofFields_settled read).1
  have means := flow_means (o:=halfDone p .origin .epoch) ⟨.dca,nested,read⟩
  refine ⟨p,read,means,means.made ?_⟩
  intro plan own
  have same : p.terms = .twap plan := own
  rw [same] at kind
  cases kind

end Order
end OrderDesk
