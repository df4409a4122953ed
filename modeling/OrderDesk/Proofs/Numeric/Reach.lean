import OrderDesk.Proofs.Numeric.Rank

-- How far floats reach among whole numbers: from a certain size on, a whole number is rounded past the largest
-- of them.
namespace OrderDesk
namespace Binary64

-- Half a step past the largest finite value; the tie there goes to the even neighbour, which is no float.
def reach : Nat := 2 ^ 1024 - 2 ^ 970

theorem reach_units : ∃ exponent half, 0 < half ∧ half = 2 ^ exponent ∧ limit = 2 ^ (exponent + 54) ∧
    reach * scale + half = limit := by
  have sums : reach * scale + 2 ^ 2044 = limit := by decide +kernel
  have bits : limit = 2 ^ (2044 + 54) := by decide +kernel
  generalize 2044 = exponent at sums bits
  exact ⟨exponent,2 ^ exponent,Nat.two_pow_pos _,rfl,bits,sums⟩

section
variable {n half exponent : Nat}

-- A count of the coarsest step is rounded past the last one from the half on.
theorem roundDiv_half (positive : 0 < half) (short : n < 2 ^ 53 * (2 * half)) :
    roundDiv n (2 * half) < 2 ^ 53 ↔ n + half < 2 ^ 53 * (2 * half) := by
  have parts := Nat.div_add_mod n (2 * half)
  have floor : n / (2 * half) < 2 ^ 53 := (Nat.div_lt_iff_lt_mul (by omega)).mpr short
  rcases Nat.lt_or_eq_of_le (Nat.le_of_lt_succ floor) with below | last
  · have room : (n / (2 * half) + 1) * (2 * half) ≤ (2 ^ 53 - 1) * (2 * half) := Nat.mul_le_mul_right _ (by omega)
    have rest : n % (2 * half) < 2 * half := Nat.mod_lt n (by omega)
    have bounds := (roundDiv_bounds n (2 * half)).2
    rw [Nat.succ_mul,Nat.mul_comm] at room
    omega
  · rw [last] at parts
    unfold roundDiv
    rw [last]
    simp only
    split <;> omega

theorem spacing_top (bits : n.log2 = exponent + 53) : spacing n = exponent + 1 := by
  unfold spacing
  omega

theorem nearest_top (positive : 0 < half) (step : half = 2 ^ exponent) (first : 2 ^ (exponent + 53) ≤ n)
    (short : n < 2 ^ (exponent + 54)) : nearest n 1 < 2 ^ (exponent + 54) ↔ n + half < 2 ^ (exponent + 54) := by
  have nonzero : n ≠ 0 := by
    have := Nat.two_pow_pos (exponent + 53)
    omega
  have bits : n.log2 = exponent + 53 := by
    have lower := (Nat.le_log2 nonzero).mpr first
    have upper := (Nat.log2_lt nonzero).mpr short
    omega
  have unit : 2 ^ spacing n = 2 * half := by rw [spacing_top bits,step,Nat.pow_succ,Nat.mul_comm]
  have whole : 2 ^ (exponent + 54) = 2 ^ 53 * (2 * half) := by
    rw [step,Nat.pow_add]
    omega
  rw [nearest_whole,unit]
  rw [whole] at short ⊢
  rw [← roundDiv_half positive short]
  exact Nat.mul_lt_mul_right (by omega)

-- A power of two is never rounded down.
theorem nearest_power (long : exponent + 54 ≤ n.log2) (nonzero : n ≠ 0) : 2 ^ (exponent + 54) ≤ nearest n 1 := by
  have split : 2 ^ n.log2 = 2 ^ 52 * 2 ^ spacing n := by
    rw [← Nat.pow_add]
    unfold spacing
    congr 1
    omega
  have first := Nat.log2_self_le nonzero
  rw [split] at first
  have floor := (Nat.le_div_iff_mul_le (Nat.two_pow_pos (spacing n))).mpr first
  calc 2 ^ (exponent + 54) ≤ 2 ^ n.log2 := Nat.pow_le_pow_right (by decide) long
    _ = 2 ^ 52 * 2 ^ spacing n := split
    _ ≤ roundDiv n (2 ^ spacing n) * 2 ^ spacing n :=
      Nat.mul_le_mul_right _ (Nat.le_trans floor (roundDiv_bounds _ _).1)
    _ = nearest n 1 := (nearest_whole n).symm

end

theorem nearest_limit (n : Nat) : nearest n 1 < limit ↔ n < reach * scale := by
  obtain ⟨exponent,half,positive,step,bits,sums⟩ := reach_units
  have second : 2 ^ (exponent + 54) = 2 * (2 ^ 53 * half) := by
    rw [step,Nat.pow_add]
    omega
  have first : 2 ^ (exponent + 53) = 2 ^ 53 * half := by rw [step,Nat.pow_add,Nat.mul_comm]
  rcases Nat.lt_or_ge n (2 ^ (exponent + 53)) with small | large
  · have held : representable (2 ^ 53 * half) = true := by
      rw [step]
      refine representable_scaled exponent (Nat.le_refl _) ?_
      rw [← step]
      omega
    have below := nearest_below held (Nat.le_of_lt (first ▸ small))
    omega
  · rcases Nat.lt_or_ge n (2 ^ (exponent + 54)) with short | long
    · have top := nearest_top positive step large short
      omega
    · have nonzero : n ≠ 0 := by
        have := Nat.two_pow_pos (exponent + 54)
        omega
      have power := nearest_power ((Nat.le_log2 nonzero).mpr long) nonzero
      omega

theorem ofQuanta_infinite (negative : Bool) (quanta : Nat) :
    (∃ side, ofQuanta negative quanta = .infinite side) ↔ representable quanta = false := by
  unfold ofQuanta
  split
  · rename_i held
    simp [held]
  · rename_i large
    simpa using large

theorem nearest_representable (numerator denominator : Nat) :
    representable (nearest numerator denominator) = true ↔ nearest numerator denominator < limit :=
  ⟨held_small,nearest_held⟩

theorem ofInt_infinite (n : Int) : (∃ side, ofInt n = .infinite side) ↔ reach ≤ n.natAbs := by
  have near : nearest (n.natAbs * scale) 1 < limit ↔ n.natAbs < reach :=
    (nearest_limit _).trans (Nat.mul_lt_mul_right scale_positive)
  rw [ofInt,ofRatio,ofQuanta_infinite,← Bool.not_eq_true,nearest_representable,near,Nat.not_lt]

end Binary64

namespace Number

theorem toFloat_infinite {a : Number} : a.toFloat? = none ↔ ∃ n side, a = .int n ∧ Binary64.ofInt n = .infinite side := by
  fun_cases toFloat? a with
  | case1 x => simp
  | case2 n side large => simp [large]
  | case3 n bounded => simpa using bounded

-- Only whole numbers have no float, and only the ones out of reach.
theorem toFloat_none {a : Number} : a.toFloat? = none ↔ ∃ n, a = .int n ∧ Binary64.reach ≤ n.natAbs := by
  simp only [toFloat_infinite,exists_and_left,Binary64.ofInt_infinite]

end Number
end OrderDesk
