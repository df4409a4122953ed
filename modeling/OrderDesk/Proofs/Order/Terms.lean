import OrderDesk.Proofs.Numeric.Comparison
import OrderDesk.Proofs.Order.Reread

-- What checked terms are like: how often they may be executed, and when a trailing stop is watched.
namespace OrderDesk
open Checked Validation

theorem Validation.wholeAtLeast_bound {limit : Nat} {v : Json} {n : Int} (read : wholeAtLeast limit v = ok n) : limit ≤ n := by
  obtain ⟨m,-,held⟩ := andThen_eq_ok.mp read
  have same := within_ok held
  subst same
  have admitted := within_admitted held (.atLeast limit) List.mem_cons_self
  simpa [Bound.admits,Number.int_ge] using admitted

namespace Terms

-- How often a schedule may be executed, if there is a bound.
def total? : Terms → Option Int
  | dca plan => plan.count
  | twap plan => some plan.slices
  | _ => none

theorem ofFields_total {kind : Kind} {fields : Fields} {terms : Terms} {total : Int} (read : ofFields kind fields = ok terms)
    (bounded : terms.total? = some total) : 1 ≤ total := by
  have own := ofFields_kind read
  cases terms with
  | dca plan =>
    subst own
    obtain ⟨plan,readPlan,same⟩ := map_eq_ok.mp read
    cases same
    simp only [recurringOf,seq_eq_ok,functor_eq_ok] at readPlan
    obtain ⟨_,_,⟨_,count,⟨_,_,⟨_,_,⟨_,-,rfl⟩,-,rfl⟩,-,rfl⟩,readCount,rfl⟩,-,rfl⟩ := readPlan
    cases bounded
    obtain ⟨v,taken⟩ := option_ok readCount
    exact wholeAtLeast_bound taken
  | twap plan =>
    subst own
    obtain ⟨plan,readPlan,same⟩ := map_eq_ok.mp read
    cases same
    simp only [slicedOf,seq_eq_ok,functor_eq_ok] at readPlan
    obtain ⟨_,_,⟨_,slices,⟨_,_,⟨_,_,⟨_,-,rfl⟩,-,rfl⟩,-,rfl⟩,readSlices,rfl⟩,-,rfl⟩ := readPlan
    cases bounded
    obtain ⟨v,taken⟩ := needed_ok readSlices
    exact wholeAtLeast_bound taken
  | _ => cases bounded

-- The conditions that every execution of a schedule waits for.
def conditions? : Terms → Option Group
  | dca plan => plan.conditions
  | twap plan => plan.conditions
  | _ => none

theorem ofFields_conditions {kind : Kind} {fields : Fields} {terms : Terms} {g : Group} (read : ofFields kind fields = ok terms)
    (waits : terms.conditions? = some g) : g.Admitted := by
  have own := ofFields_kind read
  cases terms with
  | dca plan =>
    subst own
    obtain ⟨plan,readPlan,same⟩ := map_eq_ok.mp read
    cases same
    simp only [recurringOf,seq_eq_ok,functor_eq_ok] at readPlan
    obtain ⟨_,_,⟨_,_,⟨_,conditions,⟨_,_,⟨_,-,rfl⟩,-,rfl⟩,readConditions,rfl⟩,-,rfl⟩,-,rfl⟩ := readPlan
    cases waits
    obtain ⟨v,given⟩ := option_ok readConditions
    exact Group.ofJson_admitted given
  | twap plan =>
    subst own
    obtain ⟨plan,readPlan,same⟩ := map_eq_ok.mp read
    cases same
    simp only [slicedOf,seq_eq_ok,functor_eq_ok] at readPlan
    obtain ⟨_,conditions,⟨_,_,⟨_,_,⟨_,_,⟨_,-,rfl⟩,-,rfl⟩,-,rfl⟩,-,rfl⟩,readConditions,rfl⟩ := readPlan
    cases waits
    obtain ⟨v,given⟩ := option_ok readConditions
    exact Group.ofJson_admitted given
  | _ => cases waits

-- The terms of a trailing stop: a percent of less than all, and what was given beside it.
structure Trails (t : TrailingTerms) : Prop where
  above : (Number.float t.trailPercent).gt 0 = true
  below : (Number.float t.trailPercent).lt (.int 100) = true
  initial : ∀ x, t.initialPrice = some x → (Number.float x).gt 0 = true
  activation : ∀ g, t.activation = some g → g.Admitted

theorem ofFields_trails {kind : Kind} {fields : Fields} {t : TrailingTerms} (read : ofFields kind fields = ok (trailingStop t)) :
    Trails t := by
  have own := ofFields_kind read
  subst own
  obtain ⟨t,readTrailing,same⟩ := map_eq_ok.mp read
  cases same
  simp only [trailingOf,seq_eq_ok,functor_eq_ok] at readTrailing
  obtain ⟨_,_,⟨_,_,⟨_,initial,⟨_,activation,⟨_,_,⟨_,readPercent,rfl⟩,-,rfl⟩,readActivation,rfl⟩,readInitial,rfl⟩,-,rfl⟩,-,rfl⟩ :=
    readTrailing
  obtain ⟨v,percent⟩ := needed_ok readPercent
  have admitted := boundedNumber_admitted percent
  refine ⟨admitted (.above 0) (by simp),admitted (.below 100) (by simp),?_,?_⟩
  · rintro x rfl
    obtain ⟨v,price⟩ := option_ok readInitial
    exact boundedNumber_admitted price (.above 0) List.mem_cons_self
  · rintro g rfl
    obtain ⟨v,conditions⟩ := option_ok readActivation
    exact Group.ofJson_admitted conditions

theorem positive_number {fields : Fields} {key : Key} {x : Binary64} (read : needed key positive fields = ok x) : x.isNaN = false := by
  obtain ⟨v,taken⟩ := needed_ok read
  exact Number.gt_number (boundedNumber_admitted taken (.above 0) List.mem_cons_self)

theorem conditionsOf_admitted {fields : Fields} {g : Group} (read : conditionsOf fields = ok g) : g.Admitted := by
  obtain ⟨v,given⟩ := needed_ok read
  exact Group.ofJson_admitted given

theorem leg_admitted {fields : Fields} {key : Key} {leg : Leg} (read : needed key (record "ProtectionLeg" legOf) fields = ok leg) :
    leg.conditions.Admitted := by
  obtain ⟨v,taken⟩ := needed_ok read
  cases v with
  | obj own =>
    obtain ⟨conditions,percent,given,-,rfl⟩ := zipWith_eq_ok.mp taken
    exact conditionsOf_admitted given
  | _ => simp [record] at taken

-- What a check asks of a snapshot can be written and read, whatever the kind of order.
def Admitted : Terms → Prop
  | stopLoss trigger _ | takeProfit trigger _ => trigger.isNaN = false
  | conditionalSell conditions _ | conditionalBuy conditions _ | smartEntry conditions _ _ _ => conditions.Admitted
  | dca plan => ∀ g, plan.conditions = some g → g.Admitted
  | twap plan => ∀ g, plan.conditions = some g → g.Admitted
  | trailingStop t => ∀ g, t.activation = some g → g.Admitted
  | dualProtection lower upper _ => lower.conditions.Admitted ∧ upper.conditions.Admitted

theorem ofFields_admitted {kind : Kind} {fields : Fields} {terms : Terms} (read : ofFields kind fields = ok terms) : terms.Admitted := by
  cases kind with
  | stopLoss | takeProfit =>
    obtain ⟨trigger,sale,readTrigger,-,rfl⟩ := zipWith_eq_ok.mp read
    exact positive_number readTrigger
  | conditionalSell | conditionalBuy =>
    obtain ⟨conditions,_,readConditions,-,rfl⟩ := zipWith_eq_ok.mp read
    exact conditionsOf_admitted readConditions
  | smartEntry =>
    simp only [ofFields,seq_eq_ok,functor_eq_ok] at read
    obtain ⟨_,_,⟨_,_,⟨_,_,⟨conditions,readConditions,rfl⟩,-,rfl⟩,-,rfl⟩,-,rfl⟩ := read
    exact conditionsOf_admitted readConditions
  | dca | twap =>
    obtain ⟨plan,-,rfl⟩ := map_eq_ok.mp read
    intro g waits
    exact ofFields_conditions read waits
  | trailingStop =>
    obtain ⟨t,-,rfl⟩ := map_eq_ok.mp read
    exact (ofFields_trails read).activation
  | dualProtection =>
    simp only [ofFields,seq_eq_ok,functor_eq_ok] at read
    obtain ⟨_,_,⟨_,upper,⟨lower,readLower,rfl⟩,readUpper,rfl⟩,-,rfl⟩ := read
    exact ⟨leg_admitted readLower,leg_admitted readUpper⟩

end Terms

namespace Params

theorem ofFields_terms {kind : Kind} {fields : Fields} {p : Params} (read : ofFields kind fields = ok p) :
    Terms.ofFields kind fields = ok p.terms := by
  obtain ⟨q,parts,fits⟩ := andThen_eq_ok.mp read
  split at fits
  · cases fits
    simp only [seq_eq_ok,functor_eq_ok] at parts
    obtain ⟨_,terms,⟨_,_,⟨_,_,⟨_,-,rfl⟩,-,rfl⟩,-,rfl⟩,readTerms,rfl⟩ := parts
    exact readTerms
  · simp at fits

theorem Settled.terms {p : Params} (settled : p.Settled) : Terms.ofFields p.kind p.fields = ok p.terms :=
  ofFields_terms (settled p.fields (Shows.refl p.fields))

end Params
end OrderDesk
