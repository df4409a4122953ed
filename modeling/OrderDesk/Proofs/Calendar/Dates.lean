import OrderDesk.Calendar.Timestamp

-- Days by number and days by year, month and day: a number of the calendar is the number of its date.
namespace OrderDesk.Date

structure Exists (d : Date) : Prop where
  year : 1 ≤ d.year ∧ d.year ≤ lastYear
  month : 1 ≤ d.month ∧ d.month ≤ 12
  day : 1 ≤ d.day ∧ d.day ≤ daysIn d.year d.month

theorem daysIn_bound (year month : Nat) : daysIn year month ≤ 31 := by
  unfold daysIn
  split <;> try split
  all_goals omega

def lengthOf (year : Nat) : Nat := if isLeap year then 366 else 365

-- A year is the last of its four when the three before it are full, and of its cycles likewise.
theorem leap_last (cycles centuries fours : Nat) (few : fours ≤ 24) (full : fours = 24 → centuries = 3) :
    isLeap (400 * cycles + 100 * centuries + 4 * fours + 3 + 1) = true := by
  simp only [isLeap,Bool.and_eq_true,Bool.or_eq_true,beq_iff_eq,bne_iff_ne]
  refine ⟨by omega,?_⟩
  rcases Nat.lt_or_ge fours 24 with less | all
  · exact Or.inl (by omega)
  · have three := full (Nat.le_antisymm few all)
    exact Or.inr (by omega)

theorem before_parts (cycles centuries fours years : Nat) (century : centuries ≤ 3) (four : fours ≤ 24)
    (year : years ≤ 3) : daysBeforeYear (400 * cycles + 100 * centuries + 4 * fours + years + 1) =
      146097 * cycles + 36524 * centuries + 1461 * fours + 365 * years := by
  have byFour : (400 * cycles + 100 * centuries + 4 * fours + years) / 4 =
      100 * cycles + 25 * centuries + fours := by omega
  have byHundred : (400 * cycles + 100 * centuries + 4 * fours + years) / 100 = 4 * cycles + centuries := by omega
  have byAll : (400 * cycles + 100 * centuries + 4 * fours + years) / 400 = cycles := by omega
  rw [daysBeforeYear,Nat.add_sub_cancel,byFour,byHundred,byAll]
  omega

theorem year_parts (number : Nat) :
    daysBeforeYear (yearOf number).1 + (yearOf number).2 = number ∧
      (yearOf number).2 < lengthOf (yearOf number).1 := by
  simp only [yearOf]
  generalize hcycles : number / 146097 = cycles
  generalize hrest : number % 146097 = rest
  generalize hcenturies : min (rest / 36524) 3 = centuries
  generalize hfew : rest - centuries * 36524 = few
  generalize hfours : few / 1461 = fours
  generalize hlast : few % 1461 = last
  generalize hyears : min (last / 365) 3 = years
  have cycle : number = 146097 * cycles + rest := by omega
  have century : rest = 36524 * centuries + few ∧ centuries ≤ 3 ∧ few ≤ 36524 ∧
      (few = 36524 → centuries = 3) := by omega
  have four : few = 1461 * fours + last ∧ last < 1461 ∧ fours ≤ 24 := by omega
  have year : years ≤ 3 ∧ 365 * years ≤ last ∧ last ≤ 365 * years + 365 ∧
      (last = 365 * years + 365 → years = 3) := by omega
  refine ⟨?_,?_⟩
  · rw [before_parts _ _ _ _ century.2.1 four.2.2 year.1]
    omega
  · rw [lengthOf]
    by_cases whole : last = 365 * years + 365
    · have three := year.2.2.2 whole
      rw [three,leap_last cycles centuries fours four.2.2 (fun all => century.2.2.2 (by omega)),if_pos rfl]
      omega
    · split <;> omega

theorem year_bounds (number : Nat) (held : number < span) :
    1 ≤ (yearOf number).1 ∧ (yearOf number).1 ≤ lastYear := by
  have before := (year_parts number).1
  refine ⟨by simp [yearOf],?_⟩
  rcases Nat.lt_or_ge lastYear (yearOf number).1 with late | fits
  · have later : span ≤ daysBeforeYear (yearOf number).1 := by
      have past : lastYear ≤ (yearOf number).1 - 1 := by omega
      simp only [span,daysBeforeYear,lastYear] at past ⊢
      omega
    omega
  · exact fits

theorem before_next (year month : Nat) (first : 1 ≤ month) :
    daysBeforeMonth year (month + 1) = daysBeforeMonth year month + daysIn year month := by
  obtain ⟨earlier,rfl⟩ : ∃ earlier, month = earlier + 1 := ⟨month - 1,by omega⟩
  rfl

theorem before_end (year : Nat) : daysBeforeMonth year 13 = lengthOf year := by
  simp only [daysBeforeMonth,daysIn,lengthOf]
  split <;> rfl

theorem month_parts (year more month rest : Nat) (first : 1 ≤ month)
    (held : daysBeforeMonth year month + rest < daysBeforeMonth year (month + more + 1)) :
    (fromMonth year more month rest).year = year ∧
    (month ≤ (fromMonth year more month rest).month ∧ (fromMonth year more month rest).month ≤ month + more) ∧
    (1 ≤ (fromMonth year more month rest).day ∧
      (fromMonth year more month rest).day ≤ daysIn year (fromMonth year more month rest).month) ∧
    daysBeforeMonth year (fromMonth year more month rest).month + ((fromMonth year more month rest).day - 1) =
      daysBeforeMonth year month + rest := by
  induction more generalizing month rest with
  | zero =>
    rw [before_next year month first] at held
    refine ⟨rfl,⟨Nat.le_refl _,Nat.le_refl _⟩,⟨Nat.le_add_left _ _,?_⟩,rfl⟩
    change rest + 1 ≤ daysIn year month
    omega
  | succ more ih =>
    unfold fromMonth
    by_cases within : rest < daysIn year month
    · rw [if_pos within]
      exact ⟨rfl,⟨Nat.le_refl _,Nat.le_add_right _ _⟩,⟨Nat.le_add_left _ _,within⟩,rfl⟩
    · rw [if_neg within]
      have next := before_next year month first
      have shifted : month + 1 + more + 1 = month + (more + 1) + 1 := by omega
      obtain ⟨sameYear,months,days,total⟩ := ih (month + 1) (rest - daysIn year month) (by omega)
        (by rw [shifted]; omega)
      exact ⟨sameYear,⟨by omega,by omega⟩,days,by omega⟩

theorem ofNumber_exists (number : Nat) (held : number < span) : (ofNumber number).Exists := by
  have rest := (year_parts number).2
  obtain ⟨sameYear,months,days,_⟩ := month_parts (yearOf number).1 11 1 (yearOf number).2 (Nat.le_refl _)
    (by rw [before_end]; simpa [daysBeforeMonth] using rest)
  refine ⟨?_,?_,?_⟩
  · exact sameYear ▸ year_bounds number held
  · exact ⟨months.1,months.2⟩
  · exact ⟨days.1,sameYear ▸ days.2⟩

theorem number_roundtrip (n : Nat) : (ofNumber n).number = n := by
  obtain ⟨whole,rest⟩ := year_parts n
  obtain ⟨sameYear,_,_,total⟩ := month_parts (yearOf n).1 11 1 (yearOf n).2 (Nat.le_refl _)
    (by rw [before_end]; simpa [daysBeforeMonth] using rest)
  have first : daysBeforeMonth (yearOf n).1 1 = 0 := rfl
  change daysBeforeYear (fromMonth (yearOf n).1 11 1 (yearOf n).2).year +
    daysBeforeMonth (fromMonth (yearOf n).1 11 1 (yearOf n).2).year
      (fromMonth (yearOf n).1 11 1 (yearOf n).2).month +
    ((fromMonth (yearOf n).1 11 1 (yearOf n).2).day - 1) = n
  rw [sameYear]
  omega

end OrderDesk.Date
