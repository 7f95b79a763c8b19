/-
**The clock is a moment of the calendar.**

Days are counted off year by year from 1970 and then month by month. Each of the two counts ends
within its bounds, so that the clock is proper until the year 10000.

* `fault?_ofDayOfYear`: a day of a year is a day of the calendar.
* `fault?_ofDays`: so is a day so many days after the first of a year.
* `isProper_sinceEpoch`: and so is every reading of the clock.
-/

import GrokEvents.Proofs.Time.Layout

namespace GrokEvents.Time

open Date

/-- The days of so many months of a year, from one on. -/
def daysOfMonths (year : Nat) : (count month : Nat) → Nat
  | 0, _ => 0
  | count + 1, month => daysIn year month + daysOfMonths year count (month + 1)

theorem daysOfMonths_year (year : Nat) : daysOfMonths year 12 1 = if isLeap year then 366 else 365 := by
  cases leap : isLeap year <;> simp [daysOfMonths, daysIn, leap]

/-- A year adds its days. -/
theorem daysBeforeYear_succ {year : Nat} (positive : 1 ≤ year) :
    daysBeforeYear (year + 1) = daysBeforeYear year + daysOfMonths year 12 1 := by
  obtain ⟨past, rfl⟩ := Nat.exists_eq_add_of_le' positive
  have fourth : (past + 1) / 4 = past / 4 + if (past + 1) % 4 = 0 then 1 else 0 := by
    split <;> omega
  have century : (past + 1) / 100 = past / 100 + if (past + 1) % 100 = 0 then 1 else 0 := by
    split <;> omega
  have fourthCentury : (past + 1) / 400 = past / 400 + if (past + 1) % 400 = 0 then 1 else 0 := by
    split <;> omega
  have fewer : past / 100 ≤ past / 4 := by
    omega
  rw [daysOfMonths_year]
  simp only [daysBeforeYear, isLeap_iff, Nat.add_sub_cancel]
  rw [fourth, century, fourthCentury]
  split_ifs <;> omega

/-- Month by month the count comes down to a day of the month. -/
theorem fault?_ofDayOfYear {year count month days : Nat} (isYear : 1 ≤ year ∧ year ≤ 9999)
    (low : 1 ≤ month)
    (high : month + count ≤ 13) (within : days < daysOfMonths year count month) :
    (ofDayOfYear year count month days).fault? = none := by
  induction count generalizing month days with
  | zero => exact absurd within (Nat.not_lt_zero days)
  | succ count ih =>
    rw [daysOfMonths] at within
    rw [ofDayOfYear]
    split
    · refine fault?_eq_none_iff.mpr ⟨isYear, ⟨low, ?_⟩, ?_⟩
      · show month ≤ 12
        omega
      · show 1 ≤ days + 1 ∧ days + 1 ≤ daysIn year month
        omega
    · exact ih (by omega) (by omega) (by omega)

/-- Year by year the count comes down to a day of the year. -/
theorem fault?_ofDays {count year days : Nat} (low : 1 ≤ year) (high : year + count ≤ 10000)
    (within : days + daysBeforeYear year < daysBeforeYear (year + count)) :
    (ofDays count year days).fault? = none := by
  induction count generalizing year days with
  | zero =>
    rw [Nat.add_zero] at within
    omega
  | succ count ih =>
    have next := daysBeforeYear_succ low
    rw [ofDays]
    split
    · exact fault?_ofDayOfYear ⟨low, by omega⟩ (by decide) (by decide) (by omega)
    · refine ih (by omega) (by omega) ?_
      rw [Nat.add_assoc, Nat.add_comm 1 count]
      omega

/-- **The clock is proper** until the end of the year 9999. -/
theorem isProper_sinceEpoch {microseconds : Nat}
    (early : microseconds < (daysBeforeYear 10000 - daysBeforeYear 1970) * microsecondsPerDay) :
    (Moment.sinceEpoch microseconds).IsProper := by
  refine ⟨?date, ?time, ?microsecond, ?offset⟩
  case date =>
    have days : microseconds / microsecondsPerDay < daysBeforeYear 10000 - daysBeforeYear 1970 :=
      Nat.div_lt_of_lt_mul (Nat.mul_comm _ _ ▸ early)
    exact fault?_ofDays (by decide) (by decide) (Nat.add_lt_of_lt_sub days)
  case time =>
    have second : microseconds % microsecondsPerDay < microsecondsPerDay := Nat.mod_lt _ (by decide)
    rw [microsecondsPerDay] at second
    refine TimeOfDay.fault?_eq_none_iff.mpr ⟨?_, ?_, ?_⟩
    · show microseconds % microsecondsPerDay / 1000000 / 3600 ≤ 23
      rw [microsecondsPerDay]
      omega
    · show microseconds % microsecondsPerDay / 1000000 / 60 % 60 ≤ 59
      omega
    · show microseconds % microsecondsPerDay / 1000000 % 60 ≤ 59
      omega
  case microsecond => exact Nat.mod_lt _ (by decide)
  case offset =>
    rintro offset ⟨⟩
    decide

end GrokEvents.Time
