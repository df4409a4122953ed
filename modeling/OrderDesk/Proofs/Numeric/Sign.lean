import OrderDesk.Proofs.Numeric.Rounding

-- Numbers above zero: how they compare with zero, and which operations leave them above it.
namespace OrderDesk
namespace Binary64

def positive : Binary64 → Bool
  | nan => false
  | infinite negative => !negative
  | finite negative quanta _ => !negative && decide (0 < quanta)

theorem positive_nonzero {x : Binary64} (above : x.positive = true) : x.isZero = false := by
  cases x with
  | nan => cases above
  | infinite negative => rfl
  | finite negative quanta held =>
    rw [positive,Bool.and_eq_true] at above
    exact beq_eq_false_iff_ne.mpr (Nat.ne_of_gt (of_decide_eq_true above.2))

theorem ofQuanta_positive {quanta : Nat} (nonzero : 0 < quanta) : (ofQuanta false quanta).positive = true := by
  unfold ofQuanta
  split
  · simp [positive,nonzero]
  · rfl

theorem roundDiv_zero (denominator : Nat) : roundDiv 0 denominator = 0 := by
  rcases Nat.eq_zero_or_pos denominator with none | some
  · rw [none]
    rfl
  · simp [roundDiv,some]

theorem nearest_zero (denominator : Nat) : nearest 0 denominator = 0 := by
  simp only [nearest,roundDiv_zero,Nat.zero_mul]

theorem ofQuanta_negative (quanta : Nat) : (ofQuanta true quanta).positive = false := by
  unfold ofQuanta
  split <;> rfl

theorem zero_quanta : ∃ held, (0 : Binary64) = .finite false 0 held := literal_whole (by decide) (by simp)

theorem zero_held : representable 0 = true := by
  obtain ⟨held,-⟩ := zero_quanta
  exact held

theorem zero_isZero : (0 : Binary64).isZero = true := by
  obtain ⟨held,zero⟩ := zero_quanta
  rw [zero]
  rfl

theorem zero_number : (0 : Binary64).isNaN = false := by
  obtain ⟨held,zero⟩ := zero_quanta
  rw [zero]
  rfl

theorem ofQuanta_zero : (ofQuanta false 0).positive = false := by
  unfold ofQuanta
  split
  · rfl
  · rename_i large
    exact absurd zero_held large

-- A ratio is above zero as the number is that is divided.
theorem ofRatio_positive {a : Int} {b : Nat} (positive : 0 < b) (small : b ≤ scale) :
    (ofRatio (decide (a < 0)) a.natAbs b).positive = decide (0 < a) := by
  rw [ofRatio]
  rcases Int.lt_trichotomy a 0 with below | none | above
  · rw [decide_eq_true below,ofQuanta_negative]
    exact (decide_eq_false (by omega)).symm
  · rw [none,Int.natAbs_zero,Nat.zero_mul,nearest_zero]
    exact ofQuanta_zero
  · have counted : 0 < a.natAbs * scale / b := Nat.div_pos (Nat.le_trans small (Nat.le_mul_of_pos_left _ (by omega))) positive
    have upward : decide (a < 0) = false := decide_eq_false (by omega)
    rw [upward,ofQuanta_positive (nearest_positive counted)]
    exact (decide_eq_true above).symm

theorem ofInt_positive {n : Int} (above : 0 < n) : (ofInt n).positive = true :=
  (ofRatio_positive Nat.one_pos scale_positive).trans (decide_eq_true above)

theorem infinite_mul {x : Binary64} (above : x.positive = true) : (infinite false).mul x = infinite false := by
  cases x with
  | nan => cases above
  | infinite negative =>
    cases negative with
    | true => cases above
    | false => rfl
  | finite negative quanta held =>
    cases negative with
    | true => cases above
    | false => exact if_neg (Nat.ne_of_gt (of_decide_eq_true above))

theorem one_quanta : ∃ held, (1 : Binary64) = .finite false scale held := literal_whole (by decide) (by simp)

theorem hundred_quanta : ∃ held, (100 : Binary64) = .finite false (100 * scale) held := literal_whole (by decide) (by simp)

theorem div_held {x y : Nat} {held : representable x = true} {heldBy : representable y = true} (nonzero : y ≠ 0)
    (small : representable (nearest (x * scale) y) = true) : (finite false x held).div (finite false y heldBy) = finite false _ small :=
  (if_neg nonzero).trans (dif_pos small)

theorem part_finite {quanta : Nat} (held : representable quanta = true) (below : quanta < 100 * scale) :
    ∃ part small, part < scale ∧ (finite false quanta held).div 100 = finite false part small := by
  have short := part_below held below
  have sizes := scale_limit
  have fits : scale < limit := by omega
  have small := nearest_held (Nat.lt_trans short fits)
  obtain ⟨whole,hundred⟩ := hundred_quanta
  have nonzero : 100 * scale ≠ 0 := Nat.ne_of_gt (Nat.mul_pos (by decide) scale_positive)
  rw [hundred]
  exact ⟨_,small,short,div_held nonzero small⟩

theorem sub_positive {x y : Nat} {held : representable x = true} {heldBy : representable y = true} (below : y < x) :
    ((finite false x held).sub (finite false y heldBy)).positive = true := by
  have sum : signed false x + signed true y = ((x - y : Nat) : Int) := by
    show (x : Int) + -(y : Int) = _
    omega
  show (if signed false x + signed true y = 0 then ofQuanta (false && true) 0 else
    ofQuanta (decide (signed false x + signed true y < 0)) (nearest (signed false x + signed true y).natAbs 1)).positive = true
  rw [sum,if_neg (by omega),decide_eq_false (by omega),Int.natAbs_natCast]
  refine ofQuanta_positive (nearest_positive ?_)
  rw [Nat.div_one]
  exact Nat.sub_pos_of_lt below

end Binary64

namespace Number
open Binary64

theorem le_gt {x y : Number} {order : Ordering} (compared : compare? x y = some order) : x.le y = !x.gt y := by
  rw [le,lt,eq,gt,compared]
  cases order <;> rfl

theorem zero_place : (0 : Number).place = some (.at 0) := by
  show some (Place.at ((0 : Int) * (Binary64.scale : Int))) = _
  rw [Int.zero_mul]

theorem float_gt (x : Binary64) : (float x).gt 0 = x.positive := by
  rw [gt,compare?,zero_place]
  cases x with
  | nan => rfl
  | infinite negative => cases negative <;> rfl
  | finite negative quanta held =>
    show (some (compare (Binary64.signed negative quanta) 0) == some .gt) = (!negative && decide (0 < quanta))
    clear held
    cases negative with
    | true =>
      have order : compare (Binary64.signed true quanta) 0 ≠ .gt := by
        rw [Ne,Int.compare_eq_gt]
        simp [Binary64.signed]
      simp [order]
    | false =>
      simp only [Binary64.signed]
      cases quanta with
      | zero => rfl
      | succ n =>
        have order : compare ((n : Int) + 1) 0 = .gt := Int.compare_eq_gt.mpr (by omega)
        simp [order]

-- NaN is neither above zero nor at or below it.
theorem float_le {x : Binary64} (number : x.isNaN = false) : (float x).le 0 = !x.positive := by
  obtain ⟨order,compared⟩ : ∃ order, compare? (float x) 0 = some order := by
    rw [compare?,zero_place]
    cases x with
    | nan => cases number
    | infinite negative => cases negative <;> exact ⟨_,rfl⟩
    | finite negative quanta held => exact ⟨_,rfl⟩
  rw [le_gt compared,float_gt]

theorem gt_le {x y : Number} (above : x.gt y = true) : x.le y = false := by
  rw [le_gt (eq_of_beq above),above]
  rfl

theorem gt_zero {x : Number} {y : Binary64} (zero : y.isZero = true) : x.gt (.float y) = x.gt 0 := by
  have place : (float y).place = (0 : Number).place := by
    rw [zero_place]
    cases y with
    | finite negative quanta held =>
      have none : quanta = 0 := eq_of_beq zero
      subst none
      cases negative <;> rfl
    | _ => cases zero
  rw [gt,gt,compare?,compare?,place]

theorem toFloat_nonzero {price : Number} {x : Binary64} (above : price.le 0 = false) (made : price.toFloat? = some x) :
    x.isZero = false := by
  rcases toFloat_cases made with rfl | ⟨n,rfl,nearest⟩
  · cases number : x.isNaN with
    | false =>
      rw [float_le number,Bool.not_eq_false'] at above
      exact Binary64.positive_nonzero above
    | true =>
      cases x with
      | nan => rfl
      | infinite | finite => cases number
  · rw [nearest]
    refine Binary64.positive_nonzero (Binary64.ofInt_positive ?_)
    have whole : decide (n ≤ 0) = false := (int_le n 0).symm.trans above
    rw [decide_eq_false_iff_not] at whole
    omega

theorem float_between {x : Binary64} (limit : Nat) (above : (float x).gt 0 = true) (below : (float x).lt (int limit) = true) :
    ∃ quanta held, x = .finite false quanta held ∧ quanta < limit * Binary64.scale := by
  rw [float_gt] at above
  cases x with
  | nan => cases above
  | infinite negative =>
    cases negative with
    | true => cases above
    | false => cases below
  | finite negative quanta held =>
    cases negative with
    | true => cases above
    | false =>
      refine ⟨quanta,held,rfl,?_⟩
      have order : compare (quanta : Int) ((limit : Int) * (Binary64.scale : Int)) = .lt := Option.some.inj (eq_of_beq below)
      rw [← Int.natCast_mul] at order
      exact Int.ofNat_lt.mp (Int.compare_eq_lt.mp order)

theorem zero_float : (Number.float 0).place = (0 : Number).place := by
  obtain ⟨held,zero⟩ := zero_quanta
  rw [zero,zero_place]
  rfl

theorem le_zero (x : Number) : x.le (.float 0) = x.le 0 := by
  simp only [le,lt,eq,compare?,zero_float]

theorem float_zero (x : Binary64) : (float x).eq (.float 0) = x.isZero := by
  rw [eq,compare?,zero_float,zero_place]
  cases x with
  | nan => rfl
  | infinite negative => cases negative <;> rfl
  | finite negative quanta held =>
    show (some (compare (signed negative quanta) 0) == some .eq) = (quanta == 0)
    clear held
    by_cases none : quanta = 0
    · subst none
      cases negative <;> rfl
    · have apart : compare (signed negative quanta) 0 ≠ .eq := by
        rw [Ne,Int.compare_eq_eq]
        cases negative <;> simp [signed,none]
      rw [beq_eq_false_iff_ne.mpr none,beq_eq_false_iff_ne]
      exact fun same => apart (Option.some.inj same)

theorem both_some {x y : Number} {a b : Binary64} (f : Binary64 → Binary64 → Binary64) (first : x.toFloat? = some a)
    (second : y.toFloat? = some b) : both? f x y = some (.float (f a b)) := by
  simp only [both?,first,second]

theorem div_mixed {x y : Number} (mixed : ∀ a b, x = .int a → y = .int b → False) : div? x y = both? Binary64.div x y := by
  fun_cases div? x y with
  | case1 a b => exact (mixed a b rfl rfl).elim
  | case2 a b => exact (mixed a b rfl rfl).elim
  | case3 => rfl

theorem div_int {x y q : Number} : div? x y = some q → ∀ a b, x = .int a → y = .int b →
    q = .float (ofRatio (decide (a < 0) != decide (b < 0)) a.natAbs b.natAbs) := by
  fun_cases div? x y with
  | case1 a b negative large =>
    intro divided
    cases divided
  | case2 a b bounded =>
    rintro divided _ _ ⟨⟩ ⟨⟩
    exact (Option.some.inj divided).symm
  | case3 =>
    rename_i mixed
    intro _ a b first second
    exact (mixed a b first second).elim

theorem div_made {a : Int} (short : a.natAbs < 2 ^ 64) (b : Int) : ∃ q, div? (.int a) (.int b) = some q := by
  have made {x y : Number} (first : x = .int a) (second : y = .int b) : ∃ q, div? x y = some q := by
    fun_cases div? x y with
    | case1 c e negative large =>
      cases first
      cases second
      have finite := ofRatio_finite (decide (a < 0) != decide (b < 0)) short b.natAbs
      rw [large] at finite
      cases finite
    | case2 => exact ⟨_,rfl⟩
    | case3 =>
      rename_i mixed
      exact (mixed a b first second).elim
  exact made rfl rfl

theorem div_zero_order {a : Int} {b : Nat} {q : Number} (positive : 0 < b) (small : b ≤ scale)
    (divided : div? (.int a) (.int b) = some q) : q.le 0 = decide (a ≤ 0) := by
  have sign : decide ((b : Int) < 0) = false := decide_eq_false (by omega)
  have ratio := div_int divided a b rfl rfl
  rw [sign,Bool.bne_false,Int.natAbs_natCast] at ratio
  have number : (ofRatio (decide (a < 0)) a.natAbs b).isNaN = false := ofQuanta_number _ _
  rw [ratio,float_le number,ofRatio_positive positive small]
  by_cases above : 0 < a
  · rw [decide_eq_true above,decide_eq_false (by omega)]
    rfl
  · rw [decide_eq_false above,decide_eq_true (by omega)]
    rfl

theorem compare_swap (x y : Number) : compare? y x = (compare? x y).map Ordering.swap := by
  rw [compare?,compare?]
  cases x.place with
  | none => cases y.place <;> rfl
  | some p =>
    cases y.place with
    | none => rfl
    | some q =>
      cases p with
      | «at» m =>
        cases q with
        | «at» n => exact congrArg some (Int.compare_swap m n).symm
        | below | above => rfl
      | below | above => cases q <;> rfl

theorem zero_least : (Number.float 0).le (.float 0) = true := by rw [le,float_zero,zero_isZero,Bool.or_true]

-- What is shown of a number is never below zero, which changes nothing for numbers that are not.
theorem max_le_zero (x : Number) : (x.max (.float 0)).le 0 = x.le 0 := by
  rw [← le_zero,← le_zero,max]
  cases above : (Number.float 0).gt x with
  | false => rw [if_neg Bool.false_ne_true]
  | true =>
    have below : compare? x (.float 0) = some .lt := by
      rw [compare_swap,eq_of_beq above]
      rfl
    rw [if_pos rfl,zero_least,le,lt,below]
    rfl

end Number
end OrderDesk
