import SiteIndex.Time.Calendar

/-!
# Dates and days are each other's inverse

The date of a day exists, and its day is that day again (`Date.toDays_ofDays`,
`Date.isValid_ofDays`). An era of 146097 days is cut into its 400 years by `daysBefore`, and the
division that finds the year of a day hits the right one (`yearOfEra_spec`).
-/

namespace SiteIndex.Time.Date

/-- The days of an era before a year of it; an era begins in March of a year divisible by 400. -/
def daysBefore (year : Nat) : Nat := 365 * year + year / 4 - year / 100 + year / 400

/-- The days of an era without the leap days, up to the days by which the division is off. -/
def plainDays (day : Nat) : Nat := day - day / 1460 + day / 36524 - day / 146096

/-- Later days have no fewer plain days before them. -/
theorem plainDays_mono {a b : Nat} (h : a ≤ b) : plainDays a ≤ plainDays b := by
  induction h with
  | refl => exact Nat.le_refl _
  | @step b _ ih =>
      refine Nat.le_trans ih ?_
      -- The new day and a century add one each; a fourth year and an era take one each, and an era
      -- ends with a century.
      have hcentury : b / 146096 = b / 36524 / 4 := by omega
      have hcentury' : (b + 1) / 146096 = (b + 1) / 36524 / 4 := by omega
      have hfour : b / 1460 ≤ b ∧ (b + 1) / 1460 ≤ b / 1460 + 1 := by omega
      have hhundred : b / 36524 ≤ (b + 1) / 36524 ∧ (b + 1) / 36524 ≤ b / 36524 + 1 := by omega
      unfold plainDays
      rw [hcentury, hcentury']
      generalize b / 1460 = p, (b + 1) / 1460 = p', b / 36524 = q, (b + 1) / 36524 = q'
        at hfour hhundred
      omega

/-- At the turn of each year of an era the plain days reach its number of plain years. -/
theorem plainDays_daysBefore : ∀ year < 400, 365 * year ≤ plainDays (daysBefore year) ∧
    (0 < year → plainDays (daysBefore year - 1) < 365 * year) := by
  decide +kernel

/-- The division of the plain days by 365 finds the year that a day of an era belongs to. -/
theorem yearOfEra_spec {day : Nat} (h : day < 146097) :
    plainDays day / 365 < 400 ∧ daysBefore (plainDays day / 365) ≤ day ∧
      day < daysBefore (plainDays day / 365 + 1) := by
  -- The plain days do not go down, so that it is enough to know them where years begin and end.
  have hlast : plainDays day ≤ plainDays 146096 := plainDays_mono (by omega)
  have hyear : plainDays day / 365 < 400 := by
    have hvalue : plainDays 146096 = 145999 := by decide
    omega
  have hfloor : 365 * (plainDays day / 365) ≤ plainDays day := Nat.mul_div_le _ _
  have hceil : plainDays day < 365 * (plainDays day / 365 + 1) := by omega
  generalize plainDays day / 365 = year at hyear hfloor hceil ⊢
  refine ⟨hyear, ?_, ?_⟩
  · refine Nat.le_of_not_lt fun hbefore => ?_
    have hpositive : 0 < year := by
      refine Nat.pos_of_ne_zero fun hzero => ?_
      subst hzero
      exact absurd hbefore (Nat.not_lt_zero day)
    have hmono := plainDays_mono (show day ≤ daysBefore year - 1 by omega)
    have := (plainDays_daysBefore year hyear).2 hpositive
    omega
  · refine Nat.lt_of_not_le fun hafter => ?_
    by_cases hend : year + 1 < 400
    · have hmono := plainDays_mono hafter
      have := (plainDays_daysBefore (year + 1) hend).1
      omega
    · obtain rfl : year = 399 := by omega
      have hera : daysBefore (399 + 1) = 146097 := by decide
      omega

/-- The parts into which a day is split: an era, a year of the era and a day of the year. -/
theorem ofDays_parts (days : Int) : ∃ (era : Int) (year day : Nat),
    days + 719468 = era * 146097 + (daysBefore year + day : Nat) ∧ year < 400 ∧
      daysBefore year + day < daysBefore (year + 1) ∧
      ofDays days =
        let monthFromMarch := (5 * day + 2) / 153
        let month := if monthFromMarch < 10 then monthFromMarch + 3 else monthFromMarch - 9
        { year := era * 400 + year + (if month ≤ 2 then 1 else 0)
          month
          day := day - (153 * monthFromMarch + 2) / 5 + 1 } := by
  have hfdiv : Int.fdiv (days + 719468) 146097 = (days + 719468) / 146097 :=
    Int.fdiv_eq_ediv_of_nonneg _ (by decide)
  have hday : (days + 719468 - (days + 719468) / 146097 * 146097).toNat < 146097 := by omega
  obtain ⟨hyear, hfloor, hceil⟩ := yearOfEra_spec hday
  generalize hdef : (days + 719468 - (days + 719468) / 146097 * 146097).toNat = dayOfEra
    at hday hyear hfloor hceil
  refine ⟨(days + 719468) / 146097, plainDays dayOfEra / 365,
    dayOfEra - daysBefore (plainDays dayOfEra / 365), by omega, hyear, by omega, ?_⟩
  have hbefore : daysBefore (plainDays dayOfEra / 365)
      = 365 * (plainDays dayOfEra / 365) + plainDays dayOfEra / 365 / 4
        - plainDays dayOfEra / 365 / 100 := by
    rw [daysBefore, Nat.div_eq_of_lt hyear, Nat.add_zero]
  rw [hbefore, ofDays, hfdiv, hdef]
  rfl

/-- The era and the year of the era of a year. -/
theorem era_of_year (era : Int) {year : Nat} (h : year < 400) :
    Int.fdiv (era * 400 + year) 400 = era ∧ (era * 400 + year - era * 400).toNat = year := by
  rw [Int.fdiv_eq_ediv_of_nonneg _ (by decide)]
  omega

/-- The day of the date of a day is that day. -/
theorem toDays_ofDays (days : Int) : (ofDays days).toDays = days := by
  obtain ⟨era, year, day, hdays, hyear, hnext, hdate⟩ := ofDays_parts days
  obtain ⟨hera, hofEra⟩ := era_of_year era hyear
  have hlength : day < 366 := by
    unfold daysBefore at hnext
    omega
  have hbefore : daysBefore year = year * 365 + year / 4 - year / 100 := by
    unfold daysBefore
    omega
  have hmonth : (153 * ((5 * day + 2) / 153) + 2) / 5 ≤ day := by omega
  rw [hdate]
  unfold toDays
  dsimp only
  -- January and February are counted to the year that began in the March before.
  by_cases hmarch : (5 * day + 2) / 153 < 10
  · have hlate : ¬ (5 * day + 2) / 153 + 3 ≤ 2 := by omega
    simp only [hmarch, if_true, hlate, if_false, Int.add_zero, hera, hofEra, Nat.add_sub_cancel]
    omega
  · have hearly : (5 * day + 2) / 153 - 9 ≤ 2 := by omega
    simp only [hmarch, if_false, hearly, if_true, Int.add_sub_cancel, hera, hofEra]
    omega

/-- The last day of a year of an era is there only if February, which ends it, has a leap day. -/
theorem isLeapYear_of_length {era : Int} {year : Nat}
    (h : daysBefore year + 365 < daysBefore (year + 1)) :
    isLeapYear (era * 400 + year + 1) = true := by
  unfold daysBefore at h
  have hfour : (era * 400 + year + 1) % 4 = 0 := by omega
  have hhundred : (era * 400 + year + 1) % 100 ≠ 0 ∨ (era * 400 + year + 1) % 400 = 0 := by omega
  unfold isLeapYear
  rw [Bool.and_eq_true, Bool.or_eq_true, decide_eq_true_eq, decide_eq_true_eq, decide_eq_true_eq]
  exact ⟨hfour, hhundred⟩

/-- The date of a day has a month and a day of that month. -/
theorem ofDays_fields (days : Int) :
    1 ≤ (ofDays days).month ∧ (ofDays days).month ≤ 12 ∧ 1 ≤ (ofDays days).day ∧
      (ofDays days).day ≤ daysInMonth (ofDays days).year (ofDays days).month := by
  obtain ⟨era, year, day, hdays, hyear, hnext, hdate⟩ := ofDays_parts days
  have hlength : day < 366 := by
    unfold daysBefore at hnext
    omega
  rw [hdate]
  dsimp only
  -- Every month but the last has a fixed length.
  by_cases hlast : (5 * day + 2) / 153 = 11
  · rw [hlast]
    refine ⟨by decide, by decide, by omega, ?_⟩
    by_cases hleap : day = 365
    · subst hleap
      have hleapYear : isLeapYear (era * 400 + year + 1) = true := isLeapYear_of_length hnext
      simp [daysInMonth, hleapYear]
    · have hfeb : 28 ≤ daysInMonth (era * 400 + year + 1) 2 := by
        unfold daysInMonth
        split <;> split <;> omega
      refine Nat.le_trans ?_ hfeb
      omega
  · have hmonth : (5 * day + 2) / 153 = 0 ∨ (5 * day + 2) / 153 = 1 ∨ (5 * day + 2) / 153 = 2 ∨
        (5 * day + 2) / 153 = 3 ∨ (5 * day + 2) / 153 = 4 ∨ (5 * day + 2) / 153 = 5 ∨
        (5 * day + 2) / 153 = 6 ∨ (5 * day + 2) / 153 = 7 ∨ (5 * day + 2) / 153 = 8 ∨
        (5 * day + 2) / 153 = 9 ∨ (5 * day + 2) / 153 = 10 := by omega
    rcases hmonth with h | h | h | h | h | h | h | h | h | h | h <;> rw [h] <;>
      simp [daysInMonth] <;> omega

/-- The date of a day exists if its year is in range. -/
theorem isValid_ofDays {days : Int} (h : yearInRange (ofDays days).year = true) :
    (ofDays days).isValid = true := by
  obtain ⟨hmonth, hmonth', hday, hday'⟩ := ofDays_fields days
  simp [isValid, h, hmonth, hmonth', hday, hday']

end SiteIndex.Time.Date
