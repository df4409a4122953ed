import OrderDesk.Proofs.Numeric.Comparison

-- Rounding to counts of quanta: what is rounded can be held unless it is too large, and is not nothing when the
-- exact value is one quantum or more.
namespace OrderDesk
namespace Binary64

theorem spacing_quotient (quanta : Nat) : quanta / 2 ^ spacing quanta < 2 ^ 53 := by
  rw [Nat.div_lt_iff_lt_mul (Nat.two_pow_pos _),← Nat.pow_add]
  have bound : quanta < 2 ^ (quanta.log2 + 1) := Nat.lt_log2_self
  have larger : 2 ^ (quanta.log2 + 1) ≤ 2 ^ (53 + spacing quanta) := by
    refine Nat.pow_le_pow_right (by omega) ?_
    unfold spacing
    omega
  omega

theorem spacing_below {quanta : Nat} (nonzero : 0 < quanta) : 2 ^ spacing quanta ≤ quanta := by
  have smaller : 2 ^ spacing quanta ≤ 2 ^ quanta.log2 := by
    refine Nat.pow_le_pow_right (by omega) ?_
    unfold spacing
    omega
  have first := Nat.log2_self_le (Nat.ne_of_gt nonzero)
  omega

theorem roundDiv_bounds (numerator denominator : Nat) : numerator / denominator ≤ roundDiv numerator denominator ∧
    roundDiv numerator denominator ≤ numerator / denominator + 1 := by
  unfold roundDiv
  simp only
  split <;> omega

-- A count of 53 bits or fewer, with any spacing.
theorem representable_scaled {count : Nat} (exponent : Nat) (short : count ≤ 2 ^ 53) (small : count * 2 ^ exponent < limit) :
    representable (count * 2 ^ exponent) = true := by
  have divides : 2 ^ spacing (count * 2 ^ exponent) ∣ count * 2 ^ exponent := by
    rcases Nat.lt_or_eq_of_le short with shorter | same
    · refine Nat.dvd_trans (Nat.pow_dvd_pow 2 ?_) (Nat.dvd_mul_left _ _)
      by_cases none : count * 2 ^ exponent = 0
      · rw [none]
        simp [spacing]
      · have bound : count * 2 ^ exponent < 2 ^ (53 + exponent) := by
          rw [Nat.pow_add]
          exact Nat.mul_lt_mul_of_pos_right shorter (Nat.two_pow_pos _)
        have bits := (Nat.log2_lt none).mpr bound
        unfold spacing
        omega
    · rw [same,← Nat.pow_add]
      refine Nat.pow_dvd_pow 2 ?_
      rw [spacing,Nat.log2_two_pow]
      omega
  rw [representable,Bool.and_eq_true]
  exact ⟨decide_eq_true small,beq_iff_eq.mpr (Nat.mod_eq_zero_of_dvd divides)⟩

theorem nearest_short (numerator denominator : Nat) :
    roundDiv numerator (denominator * 2 ^ spacing (numerator / denominator)) ≤ 2 ^ 53 := by
  have bounds := (roundDiv_bounds numerator (denominator * 2 ^ spacing (numerator / denominator))).2
  have quotient := spacing_quotient (numerator / denominator)
  rw [Nat.div_div_eq_div_mul] at quotient
  omega

theorem nearest_held {numerator denominator : Nat} (small : nearest numerator denominator < limit) :
    representable (nearest numerator denominator) = true :=
  representable_scaled _ (nearest_short numerator denominator) small

theorem nearest_positive {numerator denominator : Nat} (whole : 0 < numerator / denominator) :
    0 < nearest numerator denominator := by
  have bounds := (roundDiv_bounds numerator (denominator * 2 ^ spacing (numerator / denominator))).1
  rw [← Nat.div_div_eq_div_mul] at bounds
  have nonzero := Nat.div_pos (spacing_below whole) (Nat.two_pow_pos (spacing (numerator / denominator)))
  exact Nat.mul_pos (by omega) (Nat.two_pow_pos _)

theorem nearest_twice (numerator denominator : Nat) : nearest numerator denominator ≤ 2 * (numerator / denominator) + 1 := by
  have bounds := (roundDiv_bounds numerator (denominator * 2 ^ spacing (numerator / denominator))).2
  rw [← Nat.div_div_eq_div_mul] at bounds
  have rounded : nearest numerator denominator ≤
      (numerator / denominator / 2 ^ spacing (numerator / denominator) + 1) * 2 ^ spacing (numerator / denominator) :=
    Nat.mul_le_mul_right _ bounds
  have whole := Nat.div_mul_le_self (numerator / denominator) (2 ^ spacing (numerator / denominator))
  rw [Nat.succ_mul] at rounded
  rcases Nat.eq_zero_or_pos (numerator / denominator) with none | some
  · have step : 2 ^ spacing 0 = 1 := by decide
    rw [none,step] at rounded
    rw [none]
    omega
  · have step := spacing_below some
    omega

theorem ofRatio_finite (negative : Bool) {numerator : Nat} (short : numerator < 2 ^ 64) (denominator : Nat) :
    (ofRatio negative numerator denominator).isFinite = true := by
  have sizes := scale_limit
  have twice := nearest_twice (numerator * scale) denominator
  have part := Nat.div_le_self (numerator * scale) denominator
  have scaled := Nat.mul_le_mul_right scale (Nat.le_of_lt short)
  have small : nearest (numerator * scale) denominator < limit := by omega
  rw [ofRatio,ofQuanta,dif_pos (nearest_held small)]
  rfl

theorem roundDiv_scaled {factor : Nat} (positive : 0 < factor) (numerator denominator : Nat) :
    roundDiv (numerator * factor) (denominator * factor) = roundDiv numerator denominator := by
  have compared : (2 * (numerator % denominator * factor) < denominator * factor ↔ 2 * (numerator % denominator) < denominator) ∧
      (2 * (numerator % denominator * factor) = denominator * factor ↔ 2 * (numerator % denominator) = denominator) := by
    rw [← Nat.mul_assoc]
    exact ⟨Nat.mul_lt_mul_right positive,Nat.mul_left_inj (Nat.ne_of_gt positive)⟩
  unfold roundDiv
  simp only [Nat.mul_div_mul_right _ _ positive,Nat.mul_mod_mul_right,compared]

-- One and sixty-four, by the spacing of the floats below one.
theorem scale_units : ∃ exponent unit, 0 < unit ∧ unit = 2 ^ exponent ∧ scale = 2 ^ 53 * unit ∧
    (∀ quanta, quanta < scale → spacing quanta ≤ exponent) ∧ 2 ^ (exponent + 59) = 64 * scale := by
  have bits : scale = 2 ^ (1021 + 53) := by decide +kernel
  generalize 1021 = exponent at bits
  refine ⟨exponent,2 ^ exponent,Nat.two_pow_pos _,rfl,?_,?_,?_⟩
  · rw [bits,Nat.pow_add,Nat.mul_comm]
  · intro quanta below
    by_cases none : quanta = 0
    · rw [none]
      simp [spacing]
    · rw [bits] at below
      have length := (Nat.log2_lt none).mpr below
      unfold spacing
      omega
  · rw [bits,show exponent + 59 = 6 + (exponent + 53) by omega,Nat.pow_add]

theorem nearest_exact {quanta : Nat} (held : representable quanta = true) : nearest quanta 1 = quanta := by
  rw [representable,Bool.and_eq_true] at held
  have divides := Nat.dvd_of_mod_eq_zero (beq_iff_eq.mp held.2)
  have positive := Nat.two_pow_pos (spacing quanta)
  simp only [nearest,Nat.div_one,Nat.one_mul,roundDiv,Nat.mod_eq_zero_of_dvd divides,Nat.mul_zero,positive,true_or,if_true]
  exact Nat.div_mul_cancel divides

-- Small whole numbers are floats.
theorem literal_whole {n quanta : Nat} (short : n ≤ 2 ^ 53) (counted : quanta = n * scale) :
    ∃ held, (OfNat.ofNat n : Binary64) = .finite false quanta held := by
  have literal : (OfNat.ofNat n : Binary64) = ofNat n := rfl
  have held : representable quanta = true := by
    obtain ⟨exponent,unit,-,same,scaled,-⟩ := scale_units
    have sizes := scale_limit.2
    have bound := Nat.mul_le_mul_right scale short
    have small : n * scale < limit := by omega
    have power : scale = 2 ^ (53 + exponent) := by rw [scaled,same,Nat.pow_add]
    rw [power] at small counted
    rw [counted]
    exact representable_scaled _ short small
  refine ⟨held,?_⟩
  rw [literal,ofNat,ofRatio,← counted,nearest_exact held]
  exact dif_pos held

-- The floats next below a hundred are not so near that their share of it is rounded to one.
theorem part_short {percent unit exponent : Nat} (held : representable percent = true)
    (below : percent < 100 * (2 ^ 53 * unit)) (positive : 0 < unit) (step : unit = 2 ^ exponent)
    (wide : 2 ^ (exponent + 59) = 64 * (2 ^ 53 * unit)) : roundDiv percent (100 * unit) < 2 ^ 53 := by
  have spaced : 64 * (2 ^ 53 * unit) ≤ percent → 128 * unit ∣ percent := by
    intro large
    have nonzero : percent ≠ 0 := by omega
    rw [← wide] at large
    have bits := (Nat.le_log2 nonzero).mpr large
    have multiple : 128 * unit = 2 ^ (7 + exponent) := by rw [Nat.pow_add,← step]
    rw [representable,Bool.and_eq_true] at held
    rw [multiple]
    refine Nat.dvd_trans (Nat.pow_dvd_pow 2 ?_) (Nat.dvd_of_mod_eq_zero (beq_iff_eq.mp held.2))
    unfold spacing
    omega
  clear wide step
  have quotient : percent / (100 * unit) ≤ 2 ^ 53 - 1 := by
    have bound := (Nat.div_lt_iff_lt_mul (show 0 < 100 * unit by omega)).mpr (show percent < 2 ^ 53 * (100 * unit) by omega)
    omega
  have parts := Nat.div_add_mod percent (100 * unit)
  unfold roundDiv
  simp only
  split
  · omega
  · rename_i rounds
    refine Nat.lt_of_not_le fun large => ?_
    have same : percent / (100 * unit) = 2 ^ 53 - 1 := by omega
    rw [same] at parts
    obtain ⟨count,counted⟩ := spaced (by omega)
    have product : percent = 128 * count * unit := by rw [counted,Nat.mul_right_comm]
    have lower := Nat.le_of_mul_le_mul_right (show (100 * (2 ^ 53 - 1) + 50) * unit ≤ 128 * count * unit by omega) positive
    have upper := Nat.lt_of_mul_lt_mul_right (show 128 * count * unit < 100 * 2 ^ 53 * unit by omega)
    omega

-- Percents below a hundred are less than one as parts, also when they are rounded.
theorem part_below {percent : Nat} (held : representable percent = true) (below : percent < 100 * scale) :
    nearest (percent * scale) (100 * scale) < scale := by
  obtain ⟨exponent,unit,positive,step,one,coarsest,wide⟩ := scale_units
  have whole : percent * scale / (100 * scale) = percent / 100 := Nat.mul_div_mul_right _ _ scale_positive
  have coarse : spacing (percent / 100) ≤ exponent := coarsest _ (by omega)
  have short := nearest_short (percent * scale) (100 * scale)
  have finest := part_short held (one ▸ below) positive step (one ▸ wide)
  simp only [nearest]
  rw [whole] at short ⊢
  rw [Nat.mul_right_comm,roundDiv_scaled scale_positive] at short ⊢
  rw [one]
  rcases Nat.lt_or_eq_of_le coarse with finer | same
  · have smaller : 2 ^ spacing (percent / 100) < unit := step ▸ Nat.pow_lt_pow_right (by omega) finer
    exact Nat.lt_of_le_of_lt (Nat.mul_le_mul_right _ short) (Nat.mul_lt_mul_of_pos_left smaller (by omega))
  · rw [same,← step]
    exact Nat.mul_lt_mul_of_pos_right finest positive

end Binary64
end OrderDesk
