import OrderDesk.Order.Encode
import OrderDesk.Order.Decode
import OrderDesk.Proofs.Calendar.FieldText
import OrderDesk.Proofs.Condition.Reread

-- Parameters are read again from their own fields, all of them or those that have a value.
namespace OrderDesk
open Checked Validation

theorem Calendar.moment_rereads : Rereads moment fun t => .str t.fieldText :=
  fun _ t read => moment_written t (moment_fielded read)

namespace Interval

theorem ofJson_ok {v : Json} {interval : Interval} (read : ofJson v = ok interval) :
    (∀ length, interval = .seconds length → ∃ v, positive v = ok length) := by
  rintro length rfl
  unfold ofJson at read
  split at read
  · rename_i interval found
    cases read
    simp only [named,oneOf,choice?] at found
    split at found
    · rename_i listed
      cases found
      obtain ⟨s,-,chosen⟩ := Option.bind_eq_some_iff.mp listed
      obtain ⟨choice,found,same⟩ := Option.map_eq_some_iff.mp chosen
      have member := List.mem_of_find?_eq_some found
      simp only [names,List.mem_cons,List.not_mem_nil,or_false] at member
      rcases member with rfl | rfl | rfl | rfl <;> cases same
    · simp at found
  · split at read
    · cases read
      exact ⟨v,‹_›⟩
    · obtain ⟨x,y,taken,-,-⟩ := zipWith_eq_ok.mp read
      simp_all [under_eq_ok]

theorem rereads : Rereads ofJson toJson := by
  intro v interval read
  cases interval with
  | hourly | daily | weekly | monthly => rfl
  | seconds length =>
    obtain ⟨v,taken⟩ := ofJson_ok read length rfl
    have again := positive_rereads v length taken
    simp only [ofJson,toJson,named,oneOf,choice?,Json.str?,Option.bind_none,again]
    rfl

theorem toJson_value (interval : Interval) : interval.toJson ≠ .null := by
  cases interval <;> simp [toJson]

end Interval

theorem strs_rereads : Rereads (list text) Json.strs := list_rereads text_rereads

theorem str_value (s : String) : Json.str s ≠ .null := by simp

theorem float_value (x : Binary64) : Json.float x ≠ .null := by simp

theorem int_value (n : Int) : Json.int n ≠ .null := by simp

theorem moment_value (t : Timestamp) : Json.str t.fieldText ≠ .null := str_value _

-- Defaults pass their own checks.

theorem percent_default : percent (.float 100) = ok 100 := by
  rw [percent,boundedNumber_float]
  refine within_all 100 ?_
  intro bound member
  simp only [List.mem_cons,List.not_mem_nil,or_false] at member
  rcases member with rfl | rfl
  · decide +kernel
  · decide +kernel

theorem cooldown_default : boundedNumber [.atLeast 0] (.float 60) = ok 60 := by
  rw [boundedNumber_float]
  refine within_all 60 ?_
  intro bound member
  simp only [List.mem_cons,List.not_mem_nil,or_false] at member
  subst bound
  decide +kernel

theorem Leg.toJson_value (leg : Leg) : leg.toJson ≠ .null := by
  simp [Leg.toJson]

namespace Terms

variable {fields shown whole : Fields}

theorem percent_again {percent : Binary64} (read : percentOf fields = ok percent) (shows : Shows shown whole)
    (held : whole.get? "sellPercent" = some (.float percent)) (plain : whole.get? "sell_percent" = none) :
    percentOf shown = ok percent :=
  shows.given percent_rereads percent_default read held (Or.inl plain) (by simp)

theorem receiveToken_again {token : Option String} (read : receiveTokenOf fields = ok token) (shows : Shows shown whole)
    (held : whole.get? "receiveToken" = some (.optStr token)) (plain : whole.get? "receive_token" = none) :
    receiveTokenOf shown = ok token :=
  shows.option text_rereads str_value read held (Or.inl plain)

theorem sale_again {sale : Sale} (read : saleOf fields = ok sale) (shows : Shows shown whole)
    (percentHeld : whole.get? "sellPercent" = some (.float sale.percent)) (percentPlain : whole.get? "sell_percent" = none)
    (tokenHeld : whole.get? "receiveToken" = some (.optStr sale.receiveToken))
    (tokenPlain : whole.get? "receive_token" = none) : saleOf shown = ok sale := by
  obtain ⟨percent,receiveToken,readPercent,readToken,rfl⟩ := zipWith_eq_ok.mp read
  exact zipWith_eq_ok.mpr ⟨percent,receiveToken,percent_again readPercent shows percentHeld percentPlain,
    receiveToken_again readToken shows tokenHeld tokenPlain,rfl⟩

theorem conditions_again {conditions : Group} (read : conditionsOf fields = ok conditions) (shows : Shows shown whole)
    (held : whole.get? "conditions" = some conditions.toJson) : conditionsOf shown = ok conditions :=
  shows.needed Group.rereads read held (Group.toJson_value conditions)

theorem purchase_again {amount : Key} {purchase : Purchase} (read : purchaseOf amount fields = ok purchase)
    (shows : Shows shown whole) (tokenHeld : whole.get? "sellToken" = some (.str purchase.sellToken))
    (amountHeld : whole.get? amount.wire = some (.float purchase.amount)) : purchaseOf amount shown = ok purchase := by
  obtain ⟨sellToken,spent,readToken,readAmount,rfl⟩ := zipWith_eq_ok.mp read
  exact zipWith_eq_ok.mpr ⟨sellToken,spent,shows.needed nonEmpty_rereads readToken tokenHeld (str_value _),
    shows.needed positive_rereads readAmount amountHeld (float_value _),rfl⟩

theorem leg_rereads : Rereads (record "ProtectionLeg" legOf) Leg.toJson := by
  intro v leg read
  cases v with
  | obj fields =>
    obtain ⟨conditions,percent,readConditions,readPercent,rfl⟩ := zipWith_eq_ok.mp read
    have shows := Shows.refl [("conditions",conditions.toJson),("sellPercent",.float percent)]
    have conditionsAgain := conditions_again readConditions shows rfl
    have percentAgain := percent_again readPercent shows rfl rfl
    simp only [record,Leg.toJson,legOf,conditionsAgain,percentAgain,zipWith_ok]
  | _ => simp [record] at read

-- The fields of a kind beside the common ones.
theorem ofFields_again {kind : Kind} {terms : Terms} {token : String} {chainId : Option String} {channels : List String}
    (read : ofFields kind fields = ok terms) (shows : Shows shown (Params.mk token chainId channels terms).fields) :
    ofFields kind shown = ok terms := by
  cases kind with
  | stopLoss =>
    obtain ⟨trigger,sale,readTrigger,readSale,rfl⟩ := zipWith_eq_ok.mp read
    have triggerAgain := shows.needed positive_rereads readTrigger rfl (float_value _)
    have saleAgain := sale_again readSale shows rfl rfl rfl rfl
    exact zipWith_eq_ok.mpr ⟨trigger,sale,triggerAgain,saleAgain,rfl⟩
  | takeProfit =>
    obtain ⟨trigger,sale,readTrigger,readSale,rfl⟩ := zipWith_eq_ok.mp read
    have triggerAgain := shows.needed positive_rereads readTrigger rfl (float_value _)
    have saleAgain := sale_again readSale shows rfl rfl rfl rfl
    exact zipWith_eq_ok.mpr ⟨trigger,sale,triggerAgain,saleAgain,rfl⟩
  | conditionalSell =>
    obtain ⟨conditions,sale,readConditions,readSale,rfl⟩ := zipWith_eq_ok.mp read
    have conditionsAgain := conditions_again readConditions shows rfl
    have saleAgain := sale_again readSale shows rfl rfl rfl rfl
    exact zipWith_eq_ok.mpr ⟨conditions,sale,conditionsAgain,saleAgain,rfl⟩
  | conditionalBuy =>
    obtain ⟨conditions,purchase,readConditions,readPurchase,rfl⟩ := zipWith_eq_ok.mp read
    have conditionsAgain := conditions_again readConditions shows rfl
    have purchaseAgain := purchase_again readPurchase shows rfl rfl
    exact zipWith_eq_ok.mpr ⟨conditions,purchase,conditionsAgain,purchaseAgain,rfl⟩
  | smartEntry =>
    simp only [ofFields,seq_eq_ok,functor_eq_ok] at read
    obtain ⟨_,cooldown,⟨_,budget,⟨_,purchase,⟨conditions,readConditions,rfl⟩,readPurchase,rfl⟩,readBudget,rfl⟩,
      readCooldown,rfl⟩ := read
    have conditionsAgain := conditions_again readConditions shows rfl
    have purchaseAgain := purchase_again readPurchase shows rfl rfl
    have budgetAgain := shows.option positive_rereads float_value readBudget rfl (Or.inl rfl)
    have cooldownAgain := shows.given (boundedNumber_rereads _) cooldown_default readCooldown rfl (Or.inl rfl) (by simp)
    simp only [ofFields,conditionsAgain,purchaseAgain,budgetAgain,cooldownAgain,functor_ok,seq_ok]
  | dca =>
    obtain ⟨plan,readPlan,rfl⟩ := map_eq_ok.mp read
    simp only [recurringOf,seq_eq_ok,functor_eq_ok] at readPlan
    obtain ⟨_,endDate,⟨_,count,⟨_,conditions,⟨_,interval,⟨purchase,readPurchase,rfl⟩,readInterval,rfl⟩,readConditions,rfl⟩,
      readCount,rfl⟩,readEnd,rfl⟩ := readPlan
    have purchaseAgain := purchase_again readPurchase shows rfl rfl
    have intervalAgain := shows.needed Interval.rereads readInterval rfl (Interval.toJson_value interval)
    have conditionsAgain := shows.option Group.rereads Group.toJson_value readConditions rfl (Or.inr rfl)
    have countAgain := shows.option (wholeAtLeast_rereads 1) int_value readCount rfl (Or.inl rfl)
    have endAgain := shows.option Calendar.moment_rereads moment_value readEnd rfl (Or.inl rfl)
    simp only [ofFields,recurringOf,purchaseAgain,intervalAgain,conditionsAgain,countAgain,endAgain,functor_ok,seq_ok,map_ok]
  | twap =>
    obtain ⟨plan,readPlan,rfl⟩ := map_eq_ok.mp read
    simp only [slicedOf,seq_eq_ok,functor_eq_ok] at readPlan
    obtain ⟨_,conditions,⟨_,slices,⟨_,duration,⟨_,total,⟨buyToken,readToken,rfl⟩,readTotal,rfl⟩,readDuration,rfl⟩,
      readSlices,rfl⟩,readConditions,rfl⟩ := readPlan
    have tokenAgain := shows.needed nonEmpty_rereads readToken rfl (str_value _)
    have totalAgain := shows.needed positive_rereads readTotal rfl (float_value _)
    have durationAgain := shows.needed positive_rereads readDuration rfl (float_value _)
    have slicesAgain := shows.needed (wholeAtLeast_rereads 1) readSlices rfl (int_value _)
    have conditionsAgain := shows.option Group.rereads Group.toJson_value readConditions rfl (Or.inr rfl)
    simp only [ofFields,slicedOf,tokenAgain,totalAgain,durationAgain,slicesAgain,conditionsAgain,functor_ok,seq_ok,map_ok]
  | trailingStop =>
    obtain ⟨plan,readPlan,rfl⟩ := map_eq_ok.mp read
    simp only [trailingOf,seq_eq_ok,functor_eq_ok] at readPlan
    obtain ⟨_,receiveToken,⟨_,priceField,⟨_,initialPrice,⟨_,activation,⟨_,percent,⟨trail,readTrail,rfl⟩,readPercent,rfl⟩,
      readActivation,rfl⟩,readInitial,rfl⟩,readField,rfl⟩,readToken,rfl⟩ := readPlan
    have trailAgain := shows.needed (boundedNumber_rereads _) readTrail rfl (float_value _)
    have percentAgain := percent_again readPercent shows rfl rfl
    have activationAgain := shows.option Group.rereads Group.toJson_value readActivation rfl (Or.inl rfl)
    have initialAgain := shows.option positive_rereads float_value readInitial rfl (Or.inl rfl)
    have fieldAgain := shows.given text_rereads rfl readField rfl (Or.inl rfl) (by simp)
    have tokenAgain := receiveToken_again readToken shows rfl rfl
    simp only [ofFields,trailingOf,trailAgain,percentAgain,activationAgain,initialAgain,fieldAgain,tokenAgain,functor_ok,
      seq_ok,map_ok]
  | dualProtection =>
    simp only [ofFields,seq_eq_ok,functor_eq_ok] at read
    obtain ⟨_,receiveToken,⟨_,upper,⟨lower,readLower,rfl⟩,readUpper,rfl⟩,readToken,rfl⟩ := read
    have lowerAgain := shows.needed leg_rereads readLower rfl (Leg.toJson_value lower)
    have upperAgain := shows.needed leg_rereads readUpper rfl (Leg.toJson_value upper)
    have tokenAgain := receiveToken_again readToken shows rfl rfl
    simp only [ofFields,lowerAgain,upperAgain,tokenAgain,functor_ok,seq_ok]

theorem ofFields_kind {kind : Kind} {terms : Terms} (read : ofFields kind fields = ok terms) : terms.kind = kind := by
  cases kind with
  | stopLoss | takeProfit | conditionalSell | conditionalBuy =>
    obtain ⟨_,_,-,-,rfl⟩ := zipWith_eq_ok.mp read
    rfl
  | dca | twap | trailingStop =>
    obtain ⟨_,-,rfl⟩ := map_eq_ok.mp read
    rfl
  | smartEntry | dualProtection =>
    obtain ⟨_,_,made,-,rfl⟩ := seq_eq_ok.mp read
    simp only [seq_eq_ok,functor_eq_ok] at made
    obtain ⟨_,_,⟨_,_,⟨_,-,rfl⟩,-,rfl⟩,-,rfl⟩ := made
    rfl

end Terms

namespace Params

-- Read again from their own fields, with or without the empty ones.
def Settled (p : Params) : Prop := ∀ shown, Shows shown p.fields → ofFields p.kind shown = ok p

theorem ofFields_settled {kind : Kind} {fields : Fields} {p : Params} (read : ofFields kind fields = ok p) :
    p.kind = kind ∧ p.Settled := by
  obtain ⟨q,parts,fits⟩ := andThen_eq_ok.mp read
  split at fits
  · rename_i affordable
    cases fits
    simp only [seq_eq_ok,functor_eq_ok] at parts
    obtain ⟨_,terms,⟨_,channels,⟨_,chainId,⟨token,readToken,rfl⟩,readChain,rfl⟩,readChannels,rfl⟩,readTerms,rfl⟩ := parts
    have own := Terms.ofFields_kind readTerms
    refine ⟨own,?_⟩
    intro shown shows
    have wireNames : Fields.get? "chain_id" (Params.fields ⟨token,chainId,channels,terms⟩) = none ∧
        Fields.get? "notify_channels" (Params.fields ⟨token,chainId,channels,terms⟩) = none := by
      cases terms <;> exact ⟨rfl,rfl⟩
    have tokenAgain := shows.needed nonEmpty_rereads readToken rfl (str_value _)
    have chainAgain := shows.option text_rereads str_value readChain rfl (Or.inl wireNames.1)
    have channelsAgain := shows.given strs_rereads rfl readChannels rfl (Or.inl wireNames.2) (by simp [Json.strs])
    have termsAgain := Terms.ofFields_again readTerms shows
    have kind : Params.kind ⟨token,chainId,channels,terms⟩ = kind := own
    simp only [kind,ofFields,tokenAgain,chainAgain,channelsAgain,termsAgain,functor_ok,seq_ok,andThen_ok,affordable,if_true]
  · simp at fits

theorem parse_settled {kind raw : Json} {p : Params} (read : parse kind raw = .ok p) : p.Settled := by
  unfold parse at read
  split at read
  · cases read
  · split at read
    · exact (ofFields_settled (orFault_eq_ok.mp read)).2
    · cases read

theorem recheck_settled {p : Params} (settled : p.Settled) : recheck p.kind p = .ok p := by
  simp [recheck,settled p.fields (Shows.refl p.fields),orFault]

theorem recheck_kind {kind : Kind} {p q : Params} (checked : recheck kind p = .ok q) : q.kind = kind := by
  unfold recheck at checked
  split at checked
  · exact (ofFields_settled (orFault_eq_ok.mp checked)).1
  · cases checked

theorem fields_unique (p : Params) : (p.fields.map Prod.fst).Nodup := by
  obtain ⟨token,chainId,channels,terms⟩ := p
  cases terms <;> simp [fields,Terms.fields,Sale.fields]

theorem kind_request (kind : Kind) : Kind.ofJson? (.str kind.name) = some kind := by
  cases kind <;> rfl

theorem tag_shown (p : Params) : Fields.get? "type" (p.fields.filter fun field => !field.2.isNull) =
    some (.str p.kind.name) := (Shows.filled p.fields_unique).find rfl (str_value _)

-- The parameters of a stored order name their kind themselves.
theorem parseTagged_settled {p : Params} (settled : p.Settled) : ∃ shown, p.toJson = .obj shown ∧
    parseTagged (Fields.set "type" (.str p.kind.name) shown) = .ok p := by
  refine ⟨_,rfl,?_⟩
  rw [set_same p.tag_shown,parseTagged,ofTagged,p.tag_shown]
  simp only [kind_request,settled _ (Shows.filled p.fields_unique),under_ok]
  rfl

end Params
end OrderDesk
