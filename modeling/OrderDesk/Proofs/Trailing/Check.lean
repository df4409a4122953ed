import OrderDesk.Proofs.Flow.Check
import OrderDesk.Proofs.Numeric.Sign
import OrderDesk.Proofs.Order.Terms

-- The check of a trailing stop: the flow asks for the trigger that is derived, and for the conditions of the
-- user beside it.
namespace OrderDesk

namespace Number

theorem float_one (x : Binary64) : (float x).eq (.float 1) = decide (x = 1) := by
  obtain ⟨held,one⟩ := Binary64.one_quanta
  have nonzero := Binary64.scale_positive
  rw [one]
  generalize Binary64.scale = scale at held nonzero
  clear one
  cases x with
  | nan => rfl
  | infinite negative => cases negative <;> rfl
  | finite negative quanta heldOwn =>
    have same : compare (Binary64.signed negative quanta) (Binary64.signed false scale) = .eq ↔
        Binary64.finite negative quanta heldOwn = .finite false scale held := by
      rw [Int.compare_eq_eq]
      cases negative with
      | true =>
        have below : Binary64.signed true quanta ≠ Binary64.signed false scale := by
          show -(quanta : Int) ≠ scale
          omega
        exact ⟨fun equal => absurd equal below,fun equal => by cases equal⟩
      | false =>
        refine ⟨fun equal => ?_,fun equal => by cases equal; rfl⟩
        have counts : quanta = scale := Int.ofNat_inj.mp equal
        subst counts
        rfl
    show (some (compare (Binary64.signed negative quanta) (Binary64.signed false scale)) == some .eq) = _
    by_cases equal : Binary64.finite negative quanta heldOwn = .finite false scale held
    · rw [same.mpr equal,decide_eq_true equal]
      rfl
    · rw [decide_eq_false equal,beq_eq_false_iff_ne]
      exact fun order => equal (same.mp (Option.some.inj order))

end Number

namespace Template

theorem triggered_met (snapshot : Snapshot) :
    triggered.met snapshot = match (Snapshot.resolve snapshot "trailing.triggered").number? with
      | none => .ok false
      | some own => match own.toFloat? with
        | none => .error .overflow
        | some x => .ok (decide (x = 1)) := by
  have compared : triggered.met snapshot = Operator.compare .eq (Snapshot.resolve snapshot "trailing.triggered") (.float 1) := rfl
  rw [compared,Operator.compare_equal]
  cases (Snapshot.resolve snapshot "trailing.triggered").number? with
  | none => rfl
  | some own =>
    dsimp only
    cases own.toFloat? with
    | none => rfl
    | some x => exact congrArg Except.ok (Number.float_one x)

theorem triggered_derived {fields : Fields} {x : Binary64} (derived : fields.get? "triggered" = some (.float x)) (snapshot : Snapshot) :
    triggered.met (Fields.set "trailing" (.obj fields) snapshot) = .ok (decide (x = 1)) := by
  rw [triggered_met,Snapshot.resolve_derived (by decide +kernel) derived]
  rfl

theorem triggered_admitted : triggered.Admitted := ⟨by decide,trivial⟩

end Template

namespace Order

-- The flow of a trailing stop checks what is derived, and what the user asks beside it.
theorem trailing_asks {o : Order} {terms : TrailingTerms} (settled : o.params.Settled) (own : o.params.terms = .trailingStop terms)
    (d : FlowDefaults) (now : Timestamp) : ∃ f, o.flow d now = .ok f ∧
      f.Asks (Draft.nodeId o.id "check-condition") (Template.withExtra Template.triggered terms.activation) := by
  have trails := Terms.ofFields_trails (own ▸ settled.terms)
  obtain ⟨name,description,drafted⟩ : ∃ name description, Template.draft d o.params =
      .ok (Template.trailing d o.params terms name description) := by
    rw [Template.draft,own]
    exact ⟨_,_,rfl⟩
  exact ⟨_,flow_made settled drafted now,
    Flow.ofDraft_asks rfl rfl (Template.withExtra_admitted Template.triggered_admitted trails.activation)⟩

end Order
end OrderDesk
