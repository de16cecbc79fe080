import Mathlib.Tactic.SplitIfs
import TxnCoord.Time.Calendar
/-!
# Day numbers and dates

`Date.ofDays` undoes `Date.toDays`'s count: every day number is the number of the date it
gives, that date exists, and the day numbers of the calendar's range give years in that
range. The era arithmetic is checked once, for one era of 400 years (`era_year`): a day of
the era falls in the year the formula finds, and only the last day of a leap year is its
366th.

Main statements:

    (Date.ofDays z).toDays = z                                           (toDays_ofDays)
    (Date.ofDays z).isValid = true                                       (isValid_ofDays)
    firstDay ≤ z → z ≤ lastDay →
      minYear ≤ (Date.ofDays z).year ∧ (Date.ofDays z).year ≤ maxYear    (year_ofDays)
-/

namespace TxnCoord.Time

/-- Inside one era of 400 years the year of a day and the day of that year are found
right: the day falls within the year, and only the last day of a leap year is its 366th. -/
theorem era_year (doe : Int) (h0 : 0 ≤ doe) (h1 : doe ≤ 146096) :
    let yoe := (doe - doe / 1460 + doe / 36524 - doe / 146096) / 365
    let doy := doe - (365 * yoe + yoe / 4 - yoe / 100)
    0 ≤ yoe ∧ yoe ≤ 399 ∧ 0 ≤ doy ∧ doy ≤ 365 ∧
      (doy = 365 → (yoe + 1) % 4 = 0 ∧ ((yoe + 1) % 100 ≠ 0 ∨ yoe = 399)) := by
  intro yoe doy
  by_cases hlast : doe = 146096
  · subst hlast
    decide
  -- a century of 36524 days, a block of four years of 1461, then a year
  obtain ⟨B, r1, hr1, hr1', hB⟩ : ∃ B r1, 0 ≤ r1 ∧ r1 < 36524 ∧ doe = 36524 * B + r1 :=
    ⟨doe / 36524, doe % 36524, by omega, by omega, by omega⟩
  obtain ⟨Q, r2, hr2, hr2', hQ⟩ : ∃ Q r2, 0 ≤ r2 ∧ r2 < 1461 ∧ r1 = 1461 * Q + r2 :=
    ⟨r1 / 1461, r1 % 1461, by omega, by omega, by omega⟩
  have hg : doe / 146096 = 0 := by omega
  have hb : doe / 36524 = B := by omega
  by_cases hδ : 1460 ≤ 24 * B + Q + r2
  · have ha : doe / 1460 = 25 * B + Q + 1 := by omega
    have hy : yoe = 100 * B + 4 * Q + 3 := by omega
    have h4 : yoe / 4 = 25 * B + Q := by omega
    have h100 : yoe / 100 = B := by omega
    omega
  · have ha : doe / 1460 = 25 * B + Q := by omega
    have hy : yoe = 100 * B + 4 * Q + r2 / 365 := by omega
    have h4 : yoe / 4 = 25 * B + Q := by omega
    have h100 : yoe / 100 = B := by omega
    omega

/-- The steps of `Date.ofDays`, named: the era of 400 years, the day of the era, the year of
the era, the day of the year counted from 1 March, and the month counted from March. -/
theorem ofDays_steps (z : Int) :
    ∃ era doe yoe doy mp : Int,
      era = (z + 719468) / 146097 ∧ doe = z + 719468 - era * 146097 ∧
      yoe = (doe - doe / 1460 + doe / 36524 - doe / 146096) / 365 ∧
      doy = doe - (365 * yoe + yoe / 4 - yoe / 100) ∧ mp = (5 * doy + 2) / 153 ∧
      Date.ofDays z =
        ⟨if (if mp < 10 then mp + 3 else mp - 9) ≤ 2 then yoe + era * 400 + 1 else yoe + era * 400,
          (if mp < 10 then mp + 3 else mp - 9).toNat, (doy - (153 * mp + 2) / 5 + 1).toNat⟩ :=
  ⟨_, _, _, _, _, rfl, rfl, rfl, rfl, rfl, rfl⟩

theorem toDays_ofDays (z : Int) : (Date.ofDays z).toDays = z := by
  obtain ⟨era, doe, yoe, doy, mp, hera, hdoe, hyoe, hdoy, hmp, hz⟩ := ofDays_steps z
  have hdoe0 : 0 ≤ doe ∧ doe ≤ 146096 := by omega
  obtain ⟨hy0, hy1, hd0, hd1, -⟩ := era_year doe hdoe0.1 hdoe0.2
  rw [← hyoe] at hy0 hy1 hd0 hd1
  rw [← hdoy] at hd0 hd1
  have hmp0 : 0 ≤ mp ∧ mp ≤ 11 := by omega
  -- the day of the month, and the year counted from March, read back
  have hday : (((doy - (153 * mp + 2) / 5 + 1).toNat : Nat) : Int) = doy - (153 * mp + 2) / 5 + 1 :=
    Int.toNat_of_nonneg (by omega)
  have hyear : (yoe + era * 400) / 400 = era := by omega
  have hdoe' : yoe * 365 + yoe / 4 - yoe / 100 + doy = doe := by omega
  rw [hz, Date.toDays]
  by_cases h : mp < 10
  · have hm : (((mp + 3).toNat : Nat) : Int) = mp + 3 := Int.toNat_of_nonneg (by omega)
    simp only [if_pos h, if_neg (show ¬ mp + 3 ≤ 2 by omega),
      if_neg (show ¬ (mp + 3).toNat ≤ 2 by omega), hm, hday, hyear, Int.add_sub_cancel]
    rw [show (mp + 3 + 9) % 12 = mp by omega]
    omega
  · have hm : (((mp - 9).toNat : Nat) : Int) = mp - 9 := Int.toNat_of_nonneg (by omega)
    simp only [if_neg h, if_pos (show mp - 9 ≤ 2 by omega),
      if_pos (show (mp - 9).toNat ≤ 2 by omega), hm, hday, Int.add_sub_cancel, hyear]
    rw [show (mp - 9 + 9) % 12 = mp by omega]
    omega

/-- Every day number is the number of a date that exists. -/
theorem isValid_ofDays (z : Int) : (Date.ofDays z).isValid = true := by
  obtain ⟨era, doe, yoe, doy, mp, hera, hdoe, hyoe, hdoy, hmp, hz⟩ := ofDays_steps z
  have hdoe0 : 0 ≤ doe ∧ doe ≤ 146096 := by omega
  obtain ⟨hy0, hy1, hd0, hd1, hleap⟩ := era_year doe hdoe0.1 hdoe0.2
  rw [← hyoe] at hy0 hy1 hd0 hd1 hleap
  rw [← hdoy] at hd0 hd1 hleap
  rw [hz]
  clear hz hera hdoe hyoe hdoy hdoe0
  simp only [Date.isValid, monthLength, isLeapYear, Bool.and_eq_true, decide_eq_true_eq]
  have hmp' : mp = 0 ∨ mp = 1 ∨ mp = 2 ∨ mp = 3 ∨ mp = 4 ∨ mp = 5 ∨ mp = 6 ∨ mp = 7 ∨
      mp = 8 ∨ mp = 9 ∨ mp = 10 ∨ mp = 11 := by omega
  rcases hmp' with rfl | rfl | rfl | rfl | rfl | rfl | rfl | rfl | rfl | rfl | rfl | rfl
  all_goals simp
  -- in February the 29th needs a leap year, which the era arithmetic gives
  all_goals (try split) <;> omega

/-- The dates of the day numbers from `firstDay` to `lastDay` lie in the years from
`minYear` to `maxYear`. -/
theorem year_ofDays {z : Int} (h₁ : firstDay ≤ z) (h₂ : z ≤ lastDay) :
    minYear ≤ (Date.ofDays z).year ∧ (Date.ofDays z).year ≤ maxYear := by
  obtain ⟨era, doe, yoe, doy, mp, hera, hdoe, hyoe, hdoy, hmp, hz⟩ := ofDays_steps z
  have hdoe0 : 0 ≤ doe ∧ doe ≤ 146096 := by omega
  obtain ⟨hy0, hy1, hd0, hd1, -⟩ := era_year doe hdoe0.1 hdoe0.2
  rw [← hyoe] at hy0 hy1 hd0 hd1
  rw [← hdoy] at hd0 hd1
  rw [show firstDay = -96465292 by decide] at h₁
  rw [show lastDay = 95026236 by decide] at h₂
  rw [hz, minYear, maxYear]
  dsimp only
  clear hz hyoe hdoe0
  -- only the first and the last era of the range need the day of the era
  have hedge : era = -656 ∨ era = 655 ∨ (-655 ≤ era ∧ era ≤ 654) := by omega
  rcases hedge with rfl | rfl | hedge <;> split_ifs <;> omega

end TxnCoord.Time
