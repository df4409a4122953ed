import OrderDesk.Proofs.Trailing.Mark

-- Prices that can be followed: finite numbers above zero, which are floats or become floats.
namespace OrderDesk

namespace Trailing

structure Priced (v : Json) (price : Number) (x : Binary64) : Prop where
  read : v.number? = some price
  above : price.gt 0 = true
  converted : price.toFloat? = some x
  finite : x.isFinite = true

section
variable {v : Json} {price : Number} {x : Binary64} {t : Trailing}

theorem Priced.usable (priced : Priced v price x) : usable? v = some price := by
  rw [usable?,priced.read]
  simp [Number.gt_le priced.above]

theorem Priced.nonzero (priced : Priced v price x) : x.isZero = false :=
  Number.toFloat_nonzero (Number.gt_le priced.above) priced.converted

-- Any mark that a price above zero leaves in place is no zero either.
theorem Priced.reached_nonzero (priced : Priced v price x) (mark : Json) : (reached mark price x).isZero = false := by
  unfold reached
  split
  · rename_i high
    cases zero : high.isZero with
    | true =>
      rw [Number.gt_zero zero,priced.above]
      exact priced.nonzero
    | false => split <;> first | exact priced.nonzero | exact zero
  · exact priced.nonzero

theorem follow_priced {terms : TrailingTerms} {snapshot : Snapshot} (typed : t.Typed)
    (priced : Priced (Snapshot.resolve snapshot terms.priceField) price x) :
    t.follow terms snapshot = .ok (⟨.float (reached t.mark price x)⟩,shown (reached t.mark price x) price x terms.trailPercent) :=
  follow_number typed priced.usable priced.converted (priced.reached_nonzero t.mark)

end

end Trailing
end OrderDesk
