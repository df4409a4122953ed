import OrderDesk.Numeric.Number

-- Comparisons of numbers: integers compare as they are, and only NaN has no place among numbers.
namespace OrderDesk
namespace Binary64

-- The largest finite value is far from the numbers that are met.
theorem scale_limit : 0 < scale ∧ 2 ^ 67 * scale < limit := by decide +kernel

theorem scale_positive : 0 < scale := scale_limit.1

theorem ofQuanta_number (negative : Bool) (quanta : Nat) : (ofQuanta negative quanta).isNaN = false := by
  unfold ofQuanta
  split <;> rfl

theorem ofInt_number (n : Int) : (ofInt n).isNaN = false := by
  rw [ofInt,ofRatio]
  exact ofQuanta_number _ _

end Binary64

namespace Number

theorem int_compare (a b : Int) : compare? (int a) (int b) = some (compare a b) := by
  have positive : (0 : Int) < (Binary64.scale : Int) := Int.natCast_pos.mpr Binary64.scale_positive
  simp only [compare?,place,Place.compare,Option.some.injEq]
  generalize (Binary64.scale : Int) = scale at positive
  cases order : compare a b with
  | lt => exact Int.compare_eq_lt.mpr (Int.mul_lt_mul_of_pos_right (Int.compare_eq_lt.mp order) positive)
  | eq => rw [Int.compare_eq_eq.mp order,Int.compare_eq_eq]
  | gt => exact Int.compare_eq_gt.mpr (Int.mul_lt_mul_of_pos_right (Int.compare_eq_gt.mp order) positive)

theorem int_le (a b : Int) : (int a).le (int b) = decide (a ≤ b) := by
  simp only [le,lt,eq,int_compare]
  cases order : compare a b with
  | lt => simpa using Int.le_of_lt (Int.compare_eq_lt.mp order)
  | eq => simpa using Int.le_of_eq (Int.compare_eq_eq.mp order)
  | gt => simpa using Int.compare_eq_gt.mp order

theorem int_ge (a b : Int) : (int a).ge (int b) = decide (b ≤ a) := by
  simp only [ge,gt,eq,int_compare]
  cases order : compare a b with
  | lt => simpa using Int.compare_eq_lt.mp order
  | eq => simpa using Int.le_of_eq (Int.compare_eq_eq.mp order).symm
  | gt => simpa using Int.le_of_lt (Int.compare_eq_gt.mp order)

theorem toFloat_cases {a : Number} {x : Binary64} :
    a.toFloat? = some x → a = .float x ∨ ∃ n, a = .int n ∧ x = Binary64.ofInt n := by
  fun_cases toFloat? a with
  | case1 y =>
    intro made
    cases made
    exact Or.inl rfl
  | case2 n negative large =>
    intro made
    cases made
  | case3 n bounded =>
    intro made
    exact Or.inr ⟨n,rfl,(Option.some.inj made).symm⟩

theorem toFloat_number {a : Number} {x : Binary64} (made : a.toFloat? = some x) : a = .float x ∨ x.isNaN = false := by
  rcases toFloat_cases made with same | ⟨n,-,nearest⟩
  · exact Or.inl same
  · rw [nearest]
    exact Or.inr (Binary64.ofInt_number n)

theorem gt_self (x : Number) : x.gt x = false := by
  rw [gt,compare?]
  cases x.place with
  | none => rfl
  | some p =>
    cases p with
    | «at» quanta => simp [Place.compare]
    | _ => rfl

theorem gt_number {x : Binary64} {y : Number} (above : (float x).gt y = true) : x.isNaN = false := by
  cases x with
  | nan => cases above
  | infinite negative => rfl
  | finite negative quanta held => rfl

end Number
end OrderDesk
