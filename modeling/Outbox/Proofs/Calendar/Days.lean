import Mathlib.Tactic.NormNum
import Outbox.Calendar.Timestamp

/-!
# Days and their numbers

The parts of a day number are a date, and the number of this date is the day number again. Years
are counted from March on, in eras of 400 years, so that the day that a leap year adds is the last
one of its year: the year of an era and the day in this year are found by two divisions, and the
correction for leap years inside the first one is what the statements here are about. They are
settled century by century, since within a century every fourth year is a leap year.
-/

namespace Outbox.Calendar

/-! ## Years of an era -/

/-- The year of an era in which one of its days lies. -/
def yearOfEra (dayOfEra : Int) : Int :=
  (dayOfEra - dayOfEra / 1460 + dayOfEra / 36524 - dayOfEra / 146096) / 365

/-- The days of an era before one of its years. -/
def daysBefore (year : Int) : Int := 365 * year + year / 4 - year / 100

/-- The day in its year, from zero on. -/
def dayOfYear (dayOfEra : Int) : Int := dayOfEra - daysBefore (yearOfEra dayOfEra)

section
variable {dayOfEra : Int}

/-- A day lies in one of the four centuries of its era, or is the last day of the last one. -/
theorem century_cases (inside : 0 ≤ dayOfEra ∧ dayOfEra ≤ 146096) :
    dayOfEra / 36524 = 0 ∨ dayOfEra / 36524 = 1 ∨ dayOfEra / 36524 = 2 ∨ dayOfEra / 36524 = 3 ∨
      dayOfEra / 36524 = 4 := by
  omega

/-- The year lies in the century of the day. The last day of an era would begin a fifth century. -/
theorem century_yearOfEra (inside : 0 ≤ dayOfEra ∧ dayOfEra ≤ 146096) :
    yearOfEra dayOfEra / 100 = dayOfEra / 36524 - dayOfEra / 146096 := by
  simp only [yearOfEra]
  rcases century_cases inside with first | second | third | fourth | last <;> omega

/-- The days of an era fall into its four hundred years. -/
theorem yearOfEra_mem (inside : 0 ≤ dayOfEra ∧ dayOfEra ≤ 146096) :
    0 ≤ yearOfEra dayOfEra ∧ yearOfEra dayOfEra ≤ 399 := by
  simp only [yearOfEra]
  omega

/-- The day does not come before its year. -/
theorem dayOfYear_nonneg (inside : 0 ≤ dayOfEra ∧ dayOfEra ≤ 146096) : 0 ≤ dayOfYear dayOfEra := by
  have century := century_yearOfEra inside
  simp only [dayOfYear, daysBefore, yearOfEra] at *
  rcases century_cases inside with first | second | third | fourth | last <;> omega

/-- The day does not come after its year. -/
theorem dayOfYear_le (inside : 0 ≤ dayOfEra ∧ dayOfEra ≤ 146096) : dayOfYear dayOfEra ≤ 365 := by
  have century := century_yearOfEra inside
  simp only [dayOfYear, daysBefore, yearOfEra] at *
  rcases century_cases inside with first | second | third | fourth | last <;> omega

/-- A year with a 366th day ends in February of a leap year: it is the fourth one of its four years,
and if it ends a century it ends the era. -/
theorem leap_of_dayOfYear (inside : 0 ≤ dayOfEra ∧ dayOfEra ≤ 146096)
    (last : dayOfYear dayOfEra = 365) :
    yearOfEra dayOfEra % 4 = 3 ∧ (yearOfEra dayOfEra % 100 = 99 → yearOfEra dayOfEra = 399) := by
  have century := century_yearOfEra inside
  have bounds := yearOfEra_mem inside
  simp only [dayOfYear, daysBefore, yearOfEra] at *
  generalize year : (dayOfEra - dayOfEra / 1460 + dayOfEra / 36524 - dayOfEra / 146096) / 365 =
    years at *
  have fourth : years % 4 = 3 := by
    have enough : years / 4 + 1 ≤ dayOfEra / 1460 := by omega
    omega
  exact ⟨fourth, by omega⟩

end

/-! ## Months of a year -/

/-- The month of a day of the year, from zero for March on. -/
def monthFromMarch (dayOfYear : Int) : Int := (5 * dayOfYear + 2) / 153

/-- The days of the year before a month. -/
def daysBeforeMonth (month : Int) : Int := (153 * month + 2) / 5

section
variable {day : Int}

/-- The days of a year that starts in March fall into its twelve months. -/
theorem monthFromMarch_mem (inside : 0 ≤ day ∧ day ≤ 365) :
    0 ≤ monthFromMarch day ∧ monthFromMarch day ≤ 11 := by
  simp only [monthFromMarch]
  omega

/-- The day does not come before its month. -/
theorem daysBeforeMonth_le (day : Int) : daysBeforeMonth (monthFromMarch day) ≤ day := by
  simp only [daysBeforeMonth, monthFromMarch]
  omega

/-- The day does not come after its month. -/
theorem lt_daysBeforeMonth_succ (day : Int) :
    day < daysBeforeMonth (monthFromMarch day + 1) := by
  simp only [daysBeforeMonth, monthFromMarch]
  omega

end

/-! ## Parts of a day number -/

/-- The era of a day number. -/
def eraOf (number : Int) : Int := (number + 719468) / 146097

/-- The day of its era that a day number stands for. -/
def dayOfEraOf (number : Int) : Int := number + 719468 - eraOf number * 146097

/-- The days of all eras before the day of the year, and then this day. -/
theorem eraOf_add (number : Int) :
    eraOf number * 146097 + daysBefore (yearOfEra (dayOfEraOf number)) +
      dayOfYear (dayOfEraOf number) - 719468 = number := by
  simp only [dayOfYear, dayOfEraOf]
  omega

/-- Every day has its place among the 146097 days of an era. -/
theorem dayOfEraOf_mem (number : Int) : 0 ≤ dayOfEraOf number ∧ dayOfEraOf number ≤ 146096 := by
  simp only [dayOfEraOf, eraOf]
  omega

/-- The date of a year from March on, a month from March and a day of the month. January and
February belong to the next year of the calendar. -/
def marchDate (year month day : Int) : Int × Nat × Nat :=
  if month < 10 then (year, (month + 3).toNat, day.toNat)
  else (year + 1, (month - 9).toNat, day.toNat)

/-- The parts of a day number as a date from March on. In a year that starts in March the leap day
comes last, and the lengths of the months follow a rule. -/
theorem partsOfDay_eq {number month : Int}
    (inMonth : monthFromMarch (dayOfYear (dayOfEraOf number)) = month) :
    partsOfDay number = marchDate (yearOfEra (dayOfEraOf number) + eraOf number * 400) month
      (dayOfYear (dayOfEraOf number) - daysBeforeMonth month + 1) := by
  have bounds := monthFromMarch_mem ⟨dayOfYear_nonneg (dayOfEraOf_mem number),
    dayOfYear_le (dayOfEraOf_mem number)⟩
  have parts : partsOfDay number =
      (yearOfEra (dayOfEraOf number) + eraOf number * 400 +
          if (if monthFromMarch (dayOfYear (dayOfEraOf number)) < 10 then
            monthFromMarch (dayOfYear (dayOfEraOf number)) + 3
          else monthFromMarch (dayOfYear (dayOfEraOf number)) - 9) ≤ 2 then 1 else 0,
        (if monthFromMarch (dayOfYear (dayOfEraOf number)) < 10 then
          monthFromMarch (dayOfYear (dayOfEraOf number)) + 3
        else monthFromMarch (dayOfYear (dayOfEraOf number)) - 9).toNat,
        (dayOfYear (dayOfEraOf number) -
          daysBeforeMonth (monthFromMarch (dayOfYear (dayOfEraOf number))) + 1).toNat) := rfl
  rw [parts, marchDate]
  rw [inMonth] at bounds ⊢
  by_cases early : month < 10
  · have notYet : ¬month + 3 ≤ 2 := by omega
    simp only [if_pos early, if_neg notYet, Int.add_zero]
  · have already : month - 9 ≤ 2 := by omega
    simp only [if_neg early, if_pos already]

/-- The number of a day in a year from March on. -/
theorem dayNumber_marchDate {year month day : Int} (inYear : 0 ≤ month ∧ month ≤ 11)
    (positive : 1 ≤ day) :
    dayNumber (marchDate year month day).1 (marchDate year month day).2.1
        (marchDate year month day).2.2 =
      year / 400 * 146097 + daysBefore (year % 400) + daysBeforeMonth month + day - 1 - 719468 := by
  simp only [marchDate, dayNumber, daysBefore, daysBeforeMonth]
  split
  · next early =>
    simp only
    rw [if_neg (by omega : ¬(month + 3).toNat ≤ 2)]
    omega
  · next late =>
    simp only
    rw [if_pos (by omega : (month - 9).toNat ≤ 2)]
    omega

/-- The number of the date of a day number is the day number. -/
theorem dayNumber_partsOfDay (number : Int) :
    dayNumber (partsOfDay number).1 (partsOfDay number).2.1 (partsOfDay number).2.2 = number := by
  have inside := dayOfEraOf_mem number
  have inYear : 0 ≤ dayOfYear (dayOfEraOf number) ∧ dayOfYear (dayOfEraOf number) ≤ 365 :=
    ⟨dayOfYear_nonneg inside, dayOfYear_le inside⟩
  have inMonth := daysBeforeMonth_le (dayOfYear (dayOfEraOf number))
  have inEra := yearOfEra_mem inside
  have whole := eraOf_add number
  rw [partsOfDay_eq rfl, dayNumber_marchDate (monthFromMarch_mem inYear) (by omega)]
  have era : (yearOfEra (dayOfEraOf number) + eraOf number * 400) / 400 = eraOf number := by omega
  have year : (yearOfEra (dayOfEraOf number) + eraOf number * 400) % 400 =
      yearOfEra (dayOfEraOf number) := by
    omega
  rw [era, year]
  omega

/-- A month from March on has as many days as lie before the next one. February ends the year, so it
has as many as the year leaves to it. -/
theorem le_daysInMonth {year month day : Int} (inYear : 0 ≤ month ∧ month ≤ 11)
    (inMonth : day < daysBeforeMonth (month + 1) - daysBeforeMonth month + 1)
    (february : month = 11 → day ≤ 28 ∨ day = 29 ∧ isLeapYear (year + 1) = true) :
    (marchDate year month day).2.2 ≤
      daysInMonth (marchDate year month day).1 (marchDate year month day).2.1 := by
  by_cases isFebruary : month = 11
  · subst isFebruary
    change day.toNat ≤ if isLeapYear (year + 1) = true then 29 else 28
    rcases february rfl with short | ⟨rfl, leap⟩
    · split <;> omega
    · rw [if_pos leap]
      decide
  · have month_cases : month = 0 ∨ month = 1 ∨ month = 2 ∨ month = 3 ∨ month = 4 ∨ month = 5 ∨
        month = 6 ∨ month = 7 ∨ month = 8 ∨ month = 9 ∨ month = 10 := by
      omega
    rcases month_cases with rfl | rfl | rfl | rfl | rfl | rfl | rfl | rfl | rfl | rfl | rfl <;>
      simp only [daysBeforeMonth, marchDate, daysInMonth] at * <;> norm_num at * <;> omega

/-- The year that February ends is a leap year when it has a 366th day. -/
theorem isLeapYear_of_dayOfYear {number : Int} (last : dayOfYear (dayOfEraOf number) = 365) :
    isLeapYear (yearOfEra (dayOfEraOf number) + eraOf number * 400 + 1) = true := by
  obtain ⟨fourth, ends⟩ := leap_of_dayOfYear (dayOfEraOf_mem number) last
  simp only [isLeapYear, Bool.and_eq_true, Bool.or_eq_true, decide_eq_true_eq, bne_iff_ne]
  omega

/-- The first and the last year of the calendar bound the years of its day numbers. The bounds are
reached exactly, at the first of January and at the end of December. -/
theorem year_partsOfDay {number : Int} (first : -96465292 ≤ number) (last : number ≤ 95026236) :
    firstYear ≤ (partsOfDay number).1 ∧ (partsOfDay number).1 ≤ lastYear := by
  have inside := dayOfEraOf_mem number
  have inYear : 0 ≤ dayOfYear (dayOfEraOf number) ∧ dayOfYear (dayOfEraOf number) ≤ 365 :=
    ⟨dayOfYear_nonneg inside, dayOfYear_le inside⟩
  have inEra := yearOfEra_mem inside
  have whole := eraOf_add number
  have eras : -656 ≤ eraOf number ∧ eraOf number ≤ 655 := by
    simp only [eraOf]
    omega
  simp only [daysBefore] at whole
  rw [partsOfDay_eq rfl]
  generalize month : monthFromMarch (dayOfYear (dayOfEraOf number)) = months
  simp only [monthFromMarch] at month
  simp only [marchDate, firstYear, lastYear]
  split
  · simp only
    omega
  · simp only
    omega

/-- The parts of a day number of the calendar are a date. Only the day of February needs the year:
the last day of a year from March on is the leap day. -/
theorem isDate_partsOfDay {number : Int} (first : -96465292 ≤ number) (last : number ≤ 95026236) :
    IsDate (partsOfDay number).1 (partsOfDay number).2.1 (partsOfDay number).2.2 := by
  have inYear : 0 ≤ dayOfYear (dayOfEraOf number) ∧ dayOfYear (dayOfEraOf number) ≤ 365 :=
    ⟨dayOfYear_nonneg (dayOfEraOf_mem number), dayOfYear_le (dayOfEraOf_mem number)⟩
  have months := monthFromMarch_mem inYear
  have fromMonth := daysBeforeMonth_le (dayOfYear (dayOfEraOf number))
  have upToMonth := lt_daysBeforeMonth_succ (dayOfYear (dayOfEraOf number))
  obtain ⟨least, most⟩ := year_partsOfDay first last
  refine ⟨least, most, ?_⟩
  rw [partsOfDay_eq rfl]
  refine ⟨?_, ?_, ?_, le_daysInMonth months (by omega) ?_⟩
  · simp only [marchDate]
    split <;> simp only <;> omega
  · simp only [marchDate]
    split <;> simp only <;> omega
  · simp only [marchDate]
    split <;> simp only <;> omega
  · intro isFebruary
    rw [isFebruary]
    by_cases leap : dayOfYear (dayOfEraOf number) = 365
    · exact Or.inr ⟨by rw [leap]; decide, isLeapYear_of_dayOfYear leap⟩
    · left
      simp only [daysBeforeMonth]
      omega

end Outbox.Calendar
