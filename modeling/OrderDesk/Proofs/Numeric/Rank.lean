import OrderDesk.Proofs.Numeric.Sign

-- The order of numbers above zero: a float has a rank, and a whole number that is rounded stays on its side of
-- every float.
namespace OrderDesk
namespace Binary64

section
variable {quanta n : Nat}

theorem spacing_mono (below : quanta ≤ n) : spacing quanta ≤ spacing n := by
  by_cases none : quanta = 0
  · rw [none]
    simp [spacing]
  · have bits := (Nat.le_log2 (show n ≠ 0 by omega)).mpr (Nat.le_trans (Nat.log2_self_le none) below)
    unfold spacing
    omega

theorem held_divides (held : representable quanta = true) : 2 ^ spacing quanta ∣ quanta := by
  rw [representable,Bool.and_eq_true] at held
  exact Nat.dvd_of_mod_eq_zero (beq_iff_eq.mp held.2)

-- No float lies between a count and its multiple of the step below.
theorem held_floor (held : representable quanta = true) (below : quanta ≤ n) :
    quanta ≤ n / 2 ^ spacing n * 2 ^ spacing n := by
  rcases Nat.lt_or_eq_of_le (spacing_mono below) with finer | same
  · -- A finer float has fewer bits, so it lies below the power of two that the count starts with.
    have bits : quanta.log2 + 1 ≤ n.log2 := by
      unfold spacing at finer
      omega
    have short : quanta < 2 ^ n.log2 := Nat.lt_of_lt_of_le Nat.lt_log2_self (Nat.pow_le_pow_right (by decide) bits)
    have nonzero : n ≠ 0 := by
      rintro rfl
      simp [spacing] at finer
    have split : 2 ^ n.log2 = 2 ^ (n.log2 - spacing n) * 2 ^ spacing n := by
      have parts : n.log2 - spacing n + spacing n = n.log2 := by
        unfold spacing
        omega
      rw [← Nat.pow_add,parts]
    have first := Nat.log2_self_le nonzero
    rw [split] at first short
    have whole := (Nat.le_div_iff_mul_le (Nat.two_pow_pos _)).mpr first
    exact Nat.le_trans (Nat.le_of_lt short) (Nat.mul_le_mul_right _ whole)
  · obtain ⟨count,counted⟩ := held_divides held
    rw [same,Nat.mul_comm] at counted
    rw [counted] at below ⊢
    exact Nat.mul_le_mul_right _ ((Nat.le_div_iff_mul_le (Nat.two_pow_pos _)).mpr below)

theorem roundDiv_ceiling {denominator count : Nat} (positive : 0 < denominator) (above : n ≤ denominator * count) :
    roundDiv n denominator ≤ count := by
  have parts := Nat.div_add_mod n denominator
  have floor : n / denominator ≤ count := Nat.div_le_of_le_mul above
  unfold roundDiv
  simp only
  split
  · exact floor
  · rename_i rounds
    rcases Nat.lt_or_eq_of_le floor with less | same
    · exact less
    · rw [same] at parts
      omega

theorem nearest_whole (n : Nat) : nearest n 1 = roundDiv n (2 ^ spacing n) * 2 ^ spacing n := by
  simp only [nearest,Nat.div_one,Nat.one_mul]

theorem nearest_above (held : representable quanta = true) (below : quanta ≤ n) : quanta ≤ nearest n 1 := by
  rw [nearest_whole]
  exact Nat.le_trans (held_floor held below) (Nat.mul_le_mul_right _ (roundDiv_bounds _ _).1)

theorem nearest_below (held : representable quanta = true) (above : n ≤ quanta) : nearest n 1 ≤ quanta := by
  have coarser := Nat.dvd_trans (Nat.pow_dvd_pow 2 (spacing_mono above)) (held_divides held)
  obtain ⟨count,counted⟩ := coarser
  rw [nearest_whole,counted,Nat.mul_comm (2 ^ spacing n) count]
  rw [counted] at above
  exact Nat.mul_le_mul_right _ (roundDiv_ceiling (Nat.two_pow_pos _) above)

end

theorem ofQuanta_cases (quanta : Nat) : (∃ held, ofQuanta false quanta = .finite false quanta held) ∨
    ofQuanta false quanta = .infinite false := by
  unfold ofQuanta
  split
  · exact Or.inl ⟨‹_›,rfl⟩
  · exact Or.inr rfl

-- Where a float above zero stands.
def rank : Binary64 → Nat
  | finite _ quanta _ => quanta
  | _ => limit

theorem held_small {quanta : Nat} (held : representable quanta = true) : quanta < limit := by
  rw [representable,Bool.and_eq_true] at held
  exact of_decide_eq_true held.1

theorem rank_limit (x : Binary64) : x.rank ≤ limit := by
  cases x with
  | finite negative quanta held => exact Nat.le_of_lt (held_small held)
  | _ => exact Nat.le_refl _

-- A float above zero is finite or the infinity above all.
theorem positive_cases {x : Binary64} (above : x.positive = true) :
    x = .infinite false ∨ ∃ quanta held, x = .finite false quanta held := by
  cases x with
  | nan => cases above
  | infinite negative =>
    cases negative with
    | true => cases above
    | false => exact Or.inl rfl
  | finite negative quanta held =>
    cases negative with
    | true => cases above
    | false => exact Or.inr ⟨quanta,held,rfl⟩

theorem rank_injective {x y : Binary64} (aboveX : x.positive = true) (aboveY : y.positive = true) (same : x.rank = y.rank) :
    x = y := by
  rcases positive_cases aboveX with rfl | ⟨quanta,held,rfl⟩
  · rcases positive_cases aboveY with rfl | ⟨other,heldOther,rfl⟩
    · rfl
    · exact absurd same.symm (Nat.ne_of_lt (held_small heldOther))
  · rcases positive_cases aboveY with rfl | ⟨other,heldOther,rfl⟩
    · exact absurd same (Nat.ne_of_lt (held_small held))
    · have counts : quanta = other := same
      subst counts
      rfl

theorem rank_le {x y : Binary64} (aboveX : x.positive = true) (aboveY : y.positive = true) :
    (Number.float x).le (.float y) = decide (x.rank ≤ y.rank) := by
  rcases positive_cases aboveX with rfl | ⟨quanta,held,rfl⟩
  · rcases positive_cases aboveY with rfl | ⟨other,heldOther,rfl⟩
    · exact (decide_eq_true (Nat.le_refl _)).symm
    · exact (decide_eq_false (Nat.not_le.mpr (held_small heldOther))).symm
  · rcases positive_cases aboveY with rfl | ⟨other,heldOther,rfl⟩
    · exact (decide_eq_true (Nat.le_of_lt (held_small held))).symm
    · show ((some (compare (quanta : Int) other) == some .lt) || (some (compare (quanta : Int) other) == some .eq)) = decide (quanta ≤ other)
      clear aboveX aboveY held heldOther
      cases order : compare (quanta : Int) other with
      | lt =>
        have less := Int.compare_eq_lt.mp order
        exact (decide_eq_true (by omega)).symm
      | eq =>
        have same := Int.compare_eq_eq.mp order
        exact (decide_eq_true (by omega)).symm
      | gt =>
        have more := Int.compare_eq_gt.mp order
        exact (decide_eq_false (by omega)).symm

end Binary64

namespace Number
open Binary64
variable {price : Number} {x y : Binary64}

theorem int_positive {m : Int} (above : (int m).gt 0 = true) : ∃ n : Nat, m = n := by
  have least : decide (m ≤ 0) = false := (int_le m 0).symm.trans (gt_le above)
  have bound := of_decide_eq_false least
  exact ⟨m.toNat,by omega⟩

theorem float_not_gt (aboveX : x.positive = true) (aboveY : y.positive = true) : (float x).le (.float y) = !(float x).gt (.float y) := by
  obtain ⟨order,compared⟩ : ∃ order, compare? (float x) (.float y) = some order := by
    rcases positive_cases aboveX with rfl | ⟨quanta,held,rfl⟩ <;> rcases positive_cases aboveY with rfl | ⟨other,heldOther,rfl⟩ <;>
      exact ⟨_,rfl⟩
  exact le_gt compared

-- A whole number against a float, before and after it becomes one.
theorem int_above {n : Nat} {quanta : Nat} {held : representable quanta = true} :
    (int n).gt (.float (.finite false quanta held)) = decide (quanta < n * scale) := by
  show (some (compare ((n : Int) * (scale : Int)) (quanta : Int)) == some .gt) = _
  clear held
  rw [← Int.natCast_mul]
  generalize n * scale = count
  cases order : compare (count : Int) (quanta : Int) with
  | lt =>
    have less := Int.compare_eq_lt.mp order
    exact (decide_eq_false (by omega)).symm
  | eq =>
    have same := Int.compare_eq_eq.mp order
    exact (decide_eq_false (by omega)).symm
  | gt =>
    have more := Int.compare_eq_gt.mp order
    exact (decide_eq_true (by omega)).symm

theorem toFloat_rank {n : Nat} (converted : (int n).toFloat? = some x) (finite : x.isFinite = true) :
    x.rank = nearest (n * scale) 1 := by
  have sign : decide ((n : Int) < 0) = false := by
    rw [decide_eq_false_iff_not]
    omega
  have made : x = ofQuanta false (nearest (n * scale) 1) := by
    rcases toFloat_cases converted with same | ⟨m,same,nearest⟩
    · cases same
    · rw [nearest,← Number.int.inj same,ofInt,ofRatio,sign,Int.natAbs_natCast]
  rcases ofQuanta_cases (nearest (n * scale) 1) with ⟨held,same⟩ | infinite
  · rw [made,same]
    rfl
  · rw [made,infinite] at finite
    cases finite

-- A price that is a float stands no lower than all it is above, and no higher than all it is not above.

theorem gt_rank (above : price.gt 0 = true) (converted : price.toFloat? = some x) (finite : x.isFinite = true) (positive : y.positive = true)
    (higher : price.gt (.float y) = true) : y.rank ≤ x.rank := by
  cases price with
  | float own =>
    cases converted
    rw [float_gt] at above
    have order := rank_le above positive
    rw [gt_le higher] at order
    exact Nat.le_of_lt (Nat.not_le.mp (of_decide_eq_false order.symm))
  | int m =>
    obtain ⟨n,rfl⟩ := int_positive above
    rcases positive_cases positive with rfl | ⟨quanta,held,rfl⟩
    · cases higher
    · rw [int_above] at higher
      rw [toFloat_rank converted finite]
      exact nearest_above held (Nat.le_of_lt (of_decide_eq_true higher))

theorem not_gt_rank (above : price.gt 0 = true) (converted : price.toFloat? = some x) (finite : x.isFinite = true) (positive : y.positive = true)
    (lower : price.gt (.float y) = false) : x.rank ≤ y.rank := by
  cases price with
  | float own =>
    cases converted
    rw [float_gt] at above
    have order := rank_le above positive
    rw [float_not_gt above positive,lower] at order
    exact of_decide_eq_true order.symm
  | int m =>
    obtain ⟨n,rfl⟩ := int_positive above
    rcases positive_cases positive with rfl | ⟨quanta,held,rfl⟩
    · exact rank_limit x
    · rw [int_above] at lower
      rw [toFloat_rank converted finite]
      exact nearest_below held (Nat.not_lt.mp (of_decide_eq_false lower))

end Number
end OrderDesk
