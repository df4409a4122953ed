import OrderDesk.Proofs.Condition.Answer
import OrderDesk.Proofs.Condition.Overload
import OrderDesk.Proofs.Schedule.Overrun

-- What comes of the input of a request. Whatever is wrong with it is reported by the place where it is wrong,
-- but for whole numbers that are too large for a float: in a condition, or as a number of slices, they are not
-- reported as anything.
namespace OrderDesk
open Checked Validation

theorem Interval.ofJson_settles : Settles Interval.ofJson := by
  intro v
  unfold ofJson
  split
  · simp
  · split
    · simp
    · exact zipWith_settled (under_settled (choice_settles _ v)) (under_settled (positive_settles v))

theorem Calendar.moment_settles : Settles Calendar.moment := by
  intro v
  unfold moment
  split <;> simp

-- Parameters of a kind that are given a condition too large to be read, or a leg with one.
def Group.FloodsAt (key : Key) (fields : Fields) : Prop := ∃ name v, key.find? fields = some (name,v) ∧ Overloads v

def Leg.Overloads (v : Json) : Prop := ∃ fields, v = .obj fields ∧ Group.FloodsAt Field.conditions fields

def Terms.Overloads (kind : Kind) (fields : Fields) : Prop :=
  match kind with
  | .stopLoss | .takeProfit => False
  | .conditionalSell | .conditionalBuy | .smartEntry | .dca | .twap => Group.FloodsAt Field.conditions fields
  | .trailingStop => Group.FloodsAt Field.activationConditions fields
  | .dualProtection => ∃ key ∈ [Field.stopLoss,Field.takeProfit], ∃ name v, key.find? fields = some (name,v) ∧ Leg.Overloads v

namespace Terms
variable {fields : Fields}

theorem group_overflow {key : Key} : needed key Group.ofJson fields = overflow ↔ Group.FloodsAt key fields := by
  rw [needed_overflow]
  simp only [Group.ofJson_overflow,Group.FloodsAt]

theorem extra_overflow {key : Key} : given key none (optional Group.ofJson) fields = overflow ↔ Group.FloodsAt key fields := by
  rw [given_overflow]
  simp only [optional_overflow,Group.ofJson_overflow,Group.FloodsAt]
  have given : ∀ v, Group.Overloads v → v ≠ .null := by
    intro v far same
    obtain ⟨inner,object,-⟩ := far
    cases same.symm.trans object
  constructor
  · intro far
    obtain ⟨name,v,found,-,far⟩ := far
    exact ⟨name,v,found,far⟩
  · intro far
    obtain ⟨name,v,found,far⟩ := far
    exact ⟨name,v,found,given v far,far⟩

theorem percentOf_settled : percentOf fields ≠ overflow := given_settled percent_settles

theorem receiveTokenOf_settled : receiveTokenOf fields ≠ overflow := given_settled (optional_settles text_settles)

theorem saleOf_settled : saleOf fields ≠ overflow := zipWith_settled percentOf_settled receiveTokenOf_settled

theorem purchaseOf_settled (amount : Key) : purchaseOf amount fields ≠ overflow :=
  zipWith_settled (needed_settled nonEmpty_settles) (needed_settled positive_settles)

theorem recurringOf_overflow : recurringOf fields = overflow ↔ Group.FloodsAt Field.conditions fields := by
  have purchase : purchaseOf Field.amountPerExecution fields ≠ overflow := purchaseOf_settled _
  have interval : needed Field.interval Interval.ofJson fields ≠ overflow := needed_settled Interval.ofJson_settles
  have count : given Field.maxExecutions none (optional (wholeAtLeast 1)) fields ≠ overflow :=
    given_settled (optional_settles (wholeAtLeast_settles 1))
  have endDate : given Field.endDate none (optional Calendar.moment) fields ≠ overflow :=
    given_settled (optional_settles Calendar.moment_settles)
  simp only [recurringOf,seq_overflow,functor_overflow,extra_overflow,purchase,interval,count,endDate,false_or,or_false]

theorem slicedOf_overflow : slicedOf fields = overflow ↔ Group.FloodsAt Field.conditions fields := by
  have buyToken : needed Field.buyToken nonEmptyText fields ≠ overflow := needed_settled nonEmpty_settles
  have amounts (key : Key) : needed key positive fields ≠ overflow := needed_settled positive_settles
  have slices : needed Field.slices (wholeAtLeast 1) fields ≠ overflow := needed_settled (wholeAtLeast_settles 1)
  simp only [slicedOf,seq_overflow,functor_overflow,extra_overflow,buyToken,amounts,slices,false_or]

theorem trailingOf_overflow : trailingOf fields = overflow ↔ Group.FloodsAt Field.activationConditions fields := by
  have trail : needed Field.trailPercent (boundedNumber [.below 100,.above 0]) fields ≠ overflow :=
    needed_settled (boundedNumber_settles _)
  have initial : given Field.initialPrice none (optional positive) fields ≠ overflow :=
    given_settled (optional_settles positive_settles)
  have field : given Field.priceField "price" text fields ≠ overflow := given_settled text_settles
  simp only [trailingOf,seq_overflow,functor_overflow,extra_overflow,trail,percentOf_settled,initial,field,receiveTokenOf_settled,
    false_or,or_false]

theorem leg_overflow {v : Json} : record "ProtectionLeg" legOf v = overflow ↔ Leg.Overloads v := by
  cases v with
  | obj fields =>
    simp only [record,legOf,zipWith_overflow,conditionsOf,group_overflow,percentOf_settled,or_false,Leg.Overloads,Json.obj.injEq,
      exists_eq_left']
  | _ => simp [record,Leg.Overloads]

theorem ofFields_overflow {kind : Kind} : ofFields kind fields = overflow ↔ Overloads kind fields := by
  have trigger : needed Field.triggerPrice positive fields ≠ overflow := needed_settled positive_settles
  cases kind with
  | stopLoss | takeProfit => simp [ofFields,Overloads,zipWith_overflow,trigger,saleOf_settled]
  | conditionalSell => simp [ofFields,Overloads,zipWith_overflow,conditionsOf,group_overflow,saleOf_settled]
  | conditionalBuy => simp [ofFields,Overloads,zipWith_overflow,conditionsOf,group_overflow,purchaseOf_settled]
  | smartEntry =>
    have budget : given Field.maxSpendTotal none (optional positive) fields ≠ overflow :=
      given_settled (optional_settles positive_settles)
    have cooldown : given Field.cooldownMinutes 60 (boundedNumber [.atLeast 0]) fields ≠ overflow :=
      given_settled (boundedNumber_settles _)
    simp only [ofFields,Overloads,seq_overflow,functor_overflow,conditionsOf,group_overflow,purchaseOf_settled,budget,cooldown,
      or_false]
  | dca => exact map_overflow.trans recurringOf_overflow
  | twap => exact map_overflow.trans slicedOf_overflow
  | trailingStop => exact map_overflow.trans trailingOf_overflow
  | dualProtection =>
    simp only [ofFields,Overloads,seq_overflow,functor_overflow,needed_overflow,leg_overflow,receiveTokenOf_settled,or_false,
      List.mem_cons,List.not_mem_nil,exists_eq_or_imp,exists_eq_left]

end Terms

namespace Params

theorem ofFields_overflow {kind : Kind} {fields : Fields} : ofFields kind fields = overflow ↔ Terms.Overloads kind fields := by
  have token : needed Field.token nonEmptyText fields ≠ overflow := needed_settled nonEmpty_settles
  have chain : given Field.chainId none (optional text) fields ≠ overflow := given_settled (optional_settles text_settles)
  have channels : given Field.notifyChannels [] (list text) fields ≠ overflow := given_settled (list_settles text_settles)
  have affordable (p : Params) : (if p.terms.affordable then ok p else
      refuse (.rule "maxSpendTotal must be at least spendAmount")) ≠ overflow := by
    split <;> simp
  simp only [ofFields,andThen_overflow,seq_overflow,functor_overflow,Terms.ofFields_overflow,token,chain,channels,affordable,
    and_false,exists_false,false_or,or_false]

def Overloads (kind raw : Json) : Prop := ∃ named fields, Kind.ofJson? kind = some named ∧ raw = .obj fields ∧ Terms.Overloads named fields

theorem parse_unshown {kind : Json} (unshown : kind.printable = false) (raw : Json) : parse kind raw = .error .unprintable := by
  have unknown : Kind.ofJson? kind = none := by
    cases kind with
    | str s => cases unshown
    | _ => rfl
  rw [parse,Kind.request,unknown]
  dsimp only
  rw [Json.shownQuoted_unprintable unshown]
  rfl

theorem parse_judges {kind : Json} (shown : kind.printable = true) (raw : Json) : Judges (parse kind raw) (Overloads kind raw) := by
  unfold parse Kind.request
  cases known : Kind.ofJson? kind with
  | none =>
    dsimp only
    rw [Json.shownQuoted_printable shown]
    refine .refused ?_ _ _ rfl
    intro far
    obtain ⟨named,fields,found,-⟩ := far
    cases known.symm.trans found
  | some named =>
    cases raw with
    | obj fields =>
      refine orFault_judges (ofFields_overflow.trans ?_) ""
      simp [Overloads,known]
    | _ =>
      refine .refused ?_ _ _ rfl
      intro far
      obtain ⟨_,_,-,object,-⟩ := far
      cases object

end Params

-- Slices that are more than a float counts to. Validation takes their number, which is none of a float.
def Terms.Uncountable (terms : Terms) : Prop := ∃ plan, terms = .twap plan ∧ Binary64.reach ≤ plan.slices.natAbs

theorem Template.draft_countable (d : FlowDefaults) (p : Params) :
    (p.terms.Uncountable ∧ draft d p = .error .overflow) ∨ (¬ p.terms.Uncountable ∧ ∃ plan, draft d p = .ok plan) := by
  cases own : p.terms with
  | twap plan =>
    cases float : (Number.int plan.slices).toFloat? with
    | none =>
      obtain ⟨n,same,far⟩ := Number.toFloat_none.mp float
      cases same
      refine Or.inl ⟨⟨plan,rfl,far⟩,?_⟩
      obtain ⟨amountOf,amounts⟩ : ∃ amountOf, Sliced.sliceAmount? = amountOf := ⟨_,rfl⟩
      have missing : amountOf plan = none := by
        rw [← amounts]
        exact Sliced.perSlice_uncounted float
      rw [draft,own,amounts]
      dsimp only
      rw [missing]
    | some x =>
      refine Or.inr ⟨?_,Template.draft_sliced own (Sliced.perSlice_counted float) (Sliced.perSlice_counted float)⟩
      intro far
      obtain ⟨_,same,far⟩ := far
      cases same
      rw [Number.toFloat_none.mpr ⟨_,rfl,far⟩] at float
      cases float
  | _ =>
    refine Or.inr ⟨?_,by rw [draft,own]; exact ⟨_,rfl⟩⟩
    intro far
    obtain ⟨_,same,-⟩ := far
    cases same

theorem Order.flow_countable {o : Order} (settled : o.params.Settled) (d : FlowDefaults) (now : Timestamp) :
    (o.params.terms.Uncountable ∧ o.flow d now = .error .overflow) ∨ (¬ o.params.terms.Uncountable ∧ ∃ f, o.flow d now = .ok f) := by
  obtain ⟨far,failed⟩ | ⟨near,plan,drafted⟩ := Template.draft_countable d o.params
  · refine Or.inl ⟨far,?_⟩
    rw [flow,Flow.generate,kind,Params.recheck_settled settled]
    simp only [bind_ok,failed]
    rfl
  · exact Or.inr ⟨near,_,flow_made settled drafted now⟩

-- A request whose kind has a text is judged. Any other one fails as the refusal of the kind is put together.
structure Judged {α : Type} (kind : Json) (answer : Except Fault α) (overloaded : Prop) : Prop where
  shown : kind.printable = true → Judges answer overloaded
  unshown : kind.printable = false → answer = .error .unprintable

-- A request that is given up: its parameters cannot be read, or its slices cannot be counted.
def Params.Floods (kind raw : Json) : Prop := Overloads kind raw ∨ ∃ p, parse kind raw = .ok p ∧ p.terms.Uncountable

namespace Desk

section
variable {d : Desk}

-- Where nothing is out of order, all that keeps one from being made is its input.
theorem create_judges (sound : d.storage.store.Sound) (absent : d.stored d.nextId.1 = none) (present : d.backend.Keeps d.clock)
    (whole : d.storage.broken = []) {kind : Json} (shown : kind.printable = true) (raw : Json) :
    Judges (d.create kind raw).2 (Params.Floods kind raw) := by
  have judged := Params.parse_judges shown raw
  obtain ⟨fault,failed,made⟩ | ⟨p,fault,parsed,failed,made⟩ | ⟨o,f,e,parsed,drafts,made⟩ := create_parts d kind raw
  · rw [made]
    cases judged with
    | taken near p read => cases failed.symm.trans read
    | refused near field message told =>
      cases failed.symm.trans told
      refine .refused ?_ field message rfl
      intro far
      obtain far | ⟨p,read,-⟩ := far
      · exact near far
      · cases failed.symm.trans read
    | raised far overflows =>
      cases failed.symm.trans overflows
      exact .raised (Or.inl far) rfl
  · rw [made]
    have settled := Params.parse_settled parsed
    obtain ⟨far,overflows⟩ | ⟨-,f,given⟩ :=
      Order.flow_countable (o:=Order.fresh d.nextId.1 p d.clock) settled d.settings.flow d.clock
    · cases failed.symm.trans overflows
      exact .raised (Or.inr ⟨p,parsed,far⟩) rfl
    · cases failed.symm.trans given
  · obtain ⟨storage,set⟩ := drafts.set_whole sound present whole
    obtain ⟨creation,-,answer,-⟩ := drafts.written sound absent present set e
    rw [made]
    refine .taken ?_ creation answer
    intro far
    obtain far | ⟨p,read,far⟩ := far
    · rw [judged.overflows.mpr far] at parsed
      cases parsed
    · cases parsed.symm.trans read
      obtain ⟨-,overflows⟩ | ⟨near,-⟩ := Order.flow_countable drafts.new.params d.settings.flow d.clock
      · cases drafts.made.symm.trans overflows
      · exact near far

theorem create_unshown {kind : Json} (unshown : kind.printable = false) (raw : Json) : (d.create kind raw).2 = .error .unprintable := by
  rw [create,Params.parse_unshown unshown raw]

end

-- What comes of the input of every request of a session.
structure Intake (d : Desk) (visits : List Visit) : Prop where
  groups : ∀ root raw, Judges (Group.parse root raw) (Group.Floods raw)
  params : ∀ kind raw, Judged kind (Params.parse kind raw) (Params.Overloads kind raw)
  orders : ∀ earlier v later kind raw, visits = earlier ++ v :: later → v.call = .create kind raw →
    ∃ answer, ((d.run earlier).visit v).2 = .created answer ∧ Judged kind answer (Params.Floods kind raw)

theorem run_intake {d : Desk} {visits : List Visit} (opened : d.Opened visits) : d.Intake visits := by
  refine ⟨Group.parse_judges,fun kind raw => ⟨fun shown => Params.parse_judges shown raw,fun unshown =>
    Params.parse_unshown unshown raw⟩,?_⟩
  intro earlier v later kind raw split asked
  have ready := opened.ready_at split
  refine ⟨_,by rw [visit_create asked],fun shown => ?_,fun unshown => create_unshown unshown raw⟩
  exact create_judges (d:={d.run earlier with clock := v.now}) ready.store (timed_absent ready (by rw [asked]; rfl))
    (ready.clocks v List.mem_cons_self) ready.working shown raw

-- A price that nothing can be compared with.
def towering : Fields := [("field",.str "price"),("operator",.str "lt"),("value",.int Node.tower)]

def toweringSale : Json :=
  .obj [("token",.str "ETH"),("conditions",.obj [("operator",.str "AND"),("conditions",.arr [.obj towering])])]

theorem towering_overloads : Condition.Overloads towering := by
  have far : Binary64.reach ≤ Node.tower.natAbs := by decide +kernel
  have less : needed (.ofName "operator") Condition.operatorOf towering = ok .lt := by
    have read := Condition.operator_written .lt
    rw [Operator.name] at read
    simp [needed,Key.find?,Key.ofName,Fields.get?,towering,read]
  exact ⟨.lt,"value",.int Node.tower,less,rfl,Node.tower,rfl,far⟩

theorem towering_intake : (vacant .memory).Opened [⟨.origin,.create (.str "conditional-sell") toweringSale⟩] ∧
    Group.parse "conditions" (.obj towering) = .error .overflow ∧
    Params.parse (.str "conditional-sell") toweringSale = .error .overflow ∧
    ((vacant .memory).visit ⟨.origin,.create (.str "conditional-sell") toweringSale⟩).2 = .created (.error .overflow) := by
  have opened : (vacant .memory).Opened [⟨.origin,.create (.str "conditional-sell") toweringSale⟩] := vacant_opened fun _ _ => trivial
  have intake := run_intake opened
  have leaf := towering_overloads
  have named : Params.Overloads (.str "conditional-sell") toweringSale :=
    ⟨.conditionalSell,_,rfl,rfl,"conditions",_,rfl,_,rfl,_,rfl,_,List.mem_cons_self,.leaf rfl leaf⟩
  obtain ⟨answer,told,judges⟩ := intake.orders [] _ [] _ _ rfl rfl
  refine ⟨opened,?_,((intake.params _ _).shown rfl).overflows.mpr named,?_⟩
  · exact (intake.groups _ _).overflows.mpr (Or.inr ⟨towering,rfl,rfl,rfl,leaf⟩)
  · rw [(judges.shown rfl).overflows.mpr (Or.inl named)] at told
    exact told

end Desk

end OrderDesk
