import Outbox.Proofs.Calendar
import Outbox.Proofs.Calendar.Days
import Outbox.Proofs.Calendar.Numbers

/-!
# Written dates and moments

Every date and every moment is read back from its written form: years below zero and beyond four
digits by their sign, fractions with as few digits as write them, and a leap second by its number
sixty. A moment is written as the date and the time of day that its seconds stand for, so that what
is read depends on the date of a day number being that day again.
-/

namespace Outbox.Calendar

/-! ## Dates -/

/-- A written year is read when a character other than a digit follows. Years of four digits are
written without a sign, and all others with one. -/
theorem readYear_yearText {year : Int} {rest : List Char} (first : firstYear ≤ year)
    (last : year ≤ lastYear) (apart : StartsApart rest) :
    readYear (yearText year ++ rest) = .ok (year, rest) := by
  simp only [firstYear, lastYear] at first last
  have small : year.natAbs < Nat.pow 2 63 := by
    have huge : (262144 : Nat) ≤ Nat.pow 2 63 := by decide
    omega
  have bounds : -(Nat.pow 2 31 : Int) ≤ year ∧ year < (Nat.pow 2 31 : Int) := by
    have large : ((Nat.pow 2 31 : Nat) : Int) = 2147483648 := rfl
    omega
  rw [yearText]
  split
  · next below =>
    have value : -(year.natAbs : Int) = year := by omega
    rw [List.cons_append, readYear, trimStart_cons (by decide)]
    simp only [readLongNumber_padded apart small, Except.map, bind, Except.bind, value]
    exact if_pos bounds
  · split
    · next beyond =>
      have value : (year.natAbs : Int) = year := by omega
      rw [List.cons_append, readYear, trimStart_cons (by decide)]
      simp only [readLongNumber_padded apart small, Except.map, bind, Except.bind, value]
      exact if_pos bounds
    · next within =>
      have value : (year.natAbs : Int) = year := by omega
      have exact : (padded 4 year.natAbs).length = 4 :=
        length_padded (by decide) (by change year.natAbs < 10000; omega)
      have read : readNumber 4 (padded 4 year.natAbs ++ rest) = .ok (year.natAbs, rest) :=
        readNumber_padded (Nat.le_of_eq exact)
          (fun narrower => absurd exact (Nat.ne_of_lt narrower)) small
      rw [readYear, trimStart_padded]
      split
      · next minus => exact absurd minus (padded_ne_cons (by decide) 4 _ rest _)
      · next plus => exact absurd plus (padded_ne_cons (by decide) 4 _ rest _)
      · simp only [read, Except.map, bind, Except.bind, value]
        exact if_pos bounds

/-- A written date is read, up to what follows. Month and day have two digits each, so that nothing
has to follow them. -/
theorem readDay_dayText {year : Int} {month day : Nat} (date : IsDate year month day)
    (rest : List Char) :
    readDay (dayText year month day ++ rest) = .ok ((year, month, day), rest) := by
  obtain ⟨first, last, monthAbove, monthBelow, dayAbove, dayBelow⟩ := date
  have dayInMonth : day ≤ 31 := by
    refine dayBelow.trans ?_
    simp only [daysInMonth]
    split
    · split <;> decide
    · split <;> decide
  have months : readPart 2 1 12 (padded 2 month ++ '-' :: (padded 2 day ++ rest)) =
      .ok (month, '-' :: (padded 2 day ++ rest)) :=
    readPart_padded _ monthAbove monthBelow (by decide)
  have days : readPart 2 1 31 (padded 2 day ++ rest) = .ok (day, rest) :=
    readPart_padded rest dayAbove dayInMonth (by decide)
  have hyphen : Text.isBlankChar '-' = false := by decide
  rw [dayText, List.append_assoc, List.append_assoc, List.cons_append, List.cons_append, readDay,
    readYear_yearText first last (startsApart_cons (by decide) _)]
  simp only [bind, Except.bind, expectChar_trimStart hyphen, months, days]
  rfl

/-- A date is read back from its written form. -/
theorem Date.parse_text (date : Date) : Date.parse date.text = .ok date := by
  have read := readDay_dayText date.isDate []
  rw [List.append_nil] at read
  have made : Date.ofParts? date.year date.month date.day = some date := dif_pos date.isDate
  rw [Date.parse, Date.text, String.toList_ofList, read]
  simp only [bind, Except.bind, made]
  rfl

/-! ## Moments -/

namespace Timestamp

/-- The digits of a fraction are read as the nanoseconds that they write, however many there are.
They end where something else than a digit follows. -/
theorem readFraction_padded {width number : Nat} {rest : List Char} (positive : 0 < width)
    (narrow : width ≤ 9) (fits : number < Nat.pow 10 width) (apart : StartsApart rest) :
    readFraction (padded width number ++ rest) =
      .ok (number * Nat.pow 10 (9 - width), rest) := by
  have exact : (padded width number).length = width := length_padded positive fits
  have small : number < Nat.pow 2 63 := by
    have most : Nat.pow 10 width ≤ Nat.pow 10 9 := Nat.pow_le_pow_right (by decide) narrow
    exact Nat.lt_of_lt_of_le fits (Nat.le_trans most (by decide))
  have read : readNumber 9 (padded width number ++ rest) = .ok (number, rest) :=
    readNumber_padded (Nat.le_trans (Nat.le_of_eq exact) narrow) (fun _ => apart) small
  have digits : (padded width number ++ rest).length - rest.length = width := by
    rw [List.length_append, exact, Nat.add_sub_cancel]
  have settled : rest.dropWhile Char.isDigit = rest := by
    cases rest with
    | nil => rfl
    | cons first others =>
      rw [List.dropWhile_cons, apart first rfl]
      rfl
  rw [readFraction, read]
  simp only [bind, Except.bind, digits, settled]
  rfl

/-- A fraction is not written, or written behind a point with as many digits as write it exactly:
three, six or nine. -/
theorem fractionText_cases {nanos : Nat} (below : nanos < nanosPerSecond) :
    (nanos = 0 ∧ fractionText nanos = []) ∨
      ∃ width number, 0 < width ∧ width ≤ 9 ∧ number < Nat.pow 10 width ∧
        number * Nat.pow 10 (9 - width) = nanos ∧
        fractionText nanos = '.' :: padded width number := by
  simp only [nanosPerSecond] at below
  rw [fractionText]
  split
  · next none => exact Or.inl ⟨none, rfl⟩
  · right
    split
    · next millis =>
      refine ⟨3, nanos / 1000000, by decide, by decide, ?_, ?_, rfl⟩
      · change nanos / 1000000 < 1000
        omega
      · exact Nat.div_mul_cancel (Nat.dvd_of_mod_eq_zero millis)
    · split
      · next micros =>
        refine ⟨6, nanos / 1000, by decide, by decide, ?_, ?_, rfl⟩
        · change nanos / 1000 < 1000000
          omega
        · exact Nat.div_mul_cancel (Nat.dvd_of_mod_eq_zero micros)
      · exact ⟨9, nanos, by decide, by decide, below, Nat.mul_one nanos, rfl⟩

/-- A written time of day is read: its seconds, where a leap second counts as the one before it, and
its nanoseconds, where a leap second has a second more of them. -/
theorem readTimeOfDay_text {hour minute second nanos : Nat} (hours : hour ≤ 23)
    (minutes : minute ≤ 59) (seconds : second ≤ 60) (below : nanos < nanosPerSecond) :
    readTimeOfDay (padded 2 hour ++ ':' :: (padded 2 minute ++ ':' :: (padded 2 second ++
        (fractionText nanos ++ ['Z'])))) =
      .ok ((hour * 3600 + minute * 60 + min second 59,
        nanos + if second = 60 then nanosPerSecond else 0), ['Z']) := by
  have colon : Text.isBlankChar ':' = false := by decide
  rw [readTimeOfDay, readPart_padded _ (Nat.zero_le _) hours (by decide)]
  simp only [bind, Except.bind, expectChar_trimStart colon,
    readPart_padded _ (Nat.zero_le _) minutes (by decide),
    readPart_padded _ (Nat.zero_le _) seconds (by decide)]
  rcases fractionText_cases below with
    ⟨rfl, written⟩ | ⟨width, number, positive, narrow, fits, rfl, written⟩
  · rw [written]
    rfl
  · have apart : StartsApart ['Z'] := startsApart_cons (by decide) []
    rw [written, List.cons_append]
    simp only [readFraction_padded positive narrow fits apart]
    rfl

/-- The hour, minute and second of a time of day. -/
theorem timeOfDay_parts {time : Nat} (inside : time < secondsPerDay) :
    time / 3600 ≤ 23 ∧ time / 60 % 60 ≤ 59 ∧ time % 60 ≤ 59 ∧
      time / 3600 * 3600 + time / 60 % 60 * 60 + time % 60 = time := by
  simp only [secondsPerDay] at inside
  omega

/-- The second of a minute that is written, and what is made of it. A leap second is written as
number sixty and is read as the second before it with a second more. -/
theorem writtenSecond (moment : Timestamp) {second : Nat}
    (inMinute : (second : Int) = moment.seconds % 60) :
    second + (if moment.isLeap then 1 else 0) ≤ 60 ∧
      min (second + if moment.isLeap then 1 else 0) 59 = second ∧
      (moment.nanos % nanosPerSecond +
        if (second + if moment.isLeap then 1 else 0) = 60 then nanosPerSecond else 0) =
        moment.nanos := by
  obtain ⟨_, _, below, minuteEnds⟩ := moment.isMoment
  cases leap : moment.isLeap with
  | true =>
    have long : nanosPerSecond ≤ moment.nanos := of_decide_eq_true leap
    have last : second = 59 := by
      have := minuteEnds long
      omega
    simp only [nanosPerSecond] at *
    simp only [if_true, last]
    omega
  | false =>
    have short : ¬nanosPerSecond ≤ moment.nanos := of_decide_eq_false leap
    have notSixty : ¬second = 60 := by omega
    simp only [nanosPerSecond] at *
    simp only [Bool.false_eq_true, if_false, Nat.add_zero, if_neg notSixty]
    omega

/-- A moment is read back from its written form. Every part is read up to what follows it, so the
whole is a chain of rewrites; a leap second is written as the second 60 and read as such. -/
theorem parse_text (moment : Timestamp) : parse moment.text = .ok moment := by
  obtain ⟨first, last, _, _⟩ := moment.isMoment
  have made := ofParts?_self moment
  have inMinute : (((moment.seconds % (secondsPerDay : Int)).toNat % 60 : Nat) : Int) =
      moment.seconds % 60 := by
    simp only [secondsPerDay]
    omega
  have inside : (moment.seconds % (secondsPerDay : Int)).toNat < secondsPerDay := by
    simp only [secondsPerDay]
    omega
  have whole : moment.seconds / (secondsPerDay : Int) * secondsPerDay +
      (moment.seconds % (secondsPerDay : Int)).toNat = moment.seconds := by
    simp only [secondsPerDay]
    omega
  simp only [firstSecond, lastSecond] at first last
  have date : IsDate (partsOfDay (moment.seconds / secondsPerDay)).1
      (partsOfDay (moment.seconds / secondsPerDay)).2.1
      (partsOfDay (moment.seconds / secondsPerDay)).2.2 := by
    apply isDate_partsOfDay <;> simp only [secondsPerDay] <;> omega
  have number := dayNumber_partsOfDay (moment.seconds / secondsPerDay)
  rw [parse, text, String.toList_ofList, dateTimeText]
  generalize (moment.seconds % (secondsPerDay : Int)).toNat = time at *
  generalize partsOfDay (moment.seconds / secondsPerDay) = parts at *
  obtain ⟨year, month, day⟩ := parts
  obtain ⟨hours, minutes, _, parts⟩ := timeOfDay_parts inside
  obtain ⟨seconds, second, nanos⟩ := writtenSecond moment inMinute
  have fraction : moment.nanos % nanosPerSecond < nanosPerSecond := Nat.mod_lt _ (by decide)
  have isDate : (Date.ofParts? year month day).isNone = false := by
    rw [Date.ofParts?, dif_pos date]
    rfl
  have offset : readOffset ['Z'] = .ok (0, []) := rfl
  have sameSeconds : dayNumber year month day * secondsPerDay + time - 0 = moment.seconds := by
    rw [number, whole, Int.sub_zero]
  simp only [List.append_assoc, List.cons_append, readDay_dayText date,
    readTimeOfDay_text hours minutes seconds fraction, bind, Except.bind]
  rw [second, nanos, parts]
  simp only [true_or, if_true, offset, isDate, sameSeconds, made]
  rfl

end Timestamp

end Outbox.Calendar
