import Outbox.Calendar.Timestamp

/-!
# Written numbers

A number is written in decimal digits with zeros before it up to a width, and its digits read back
as the number. A reader that takes at most as many digits as the width stops behind them whatever
follows; one that takes any number of digits stops there when no digit follows. White space that
may come before a number is passed over, and no digit is white space.
-/

namespace Outbox.Calendar

/-! ## Digits -/

/-- The reader of JSON numbers gives digits the value that the library gives them. -/
theorem digitsValue_eq (digits : List Char) :
    Json.digitsValue digits = Nat.ofDigitChars 10 digits 0 := by
  simp only [Json.digitsValue, Nat.ofDigitChars, Nat.mul_comm]

/-- The zeros before a number do not count. -/
theorem digitsValue_padded (width number : Nat) :
    Json.digitsValue (padded width number) = number := by
  rw [digitsValue_eq, padded, Nat.ofDigitChars_append, Nat.ofDigitChars_replicate_zero,
    Nat.mul_zero, Nat.ofDigitChars_toDigits (by decide) (by decide)]

/-- A number that is filled up to a width consists of digits only. -/
theorem isDigit_of_mem_padded {width number : Nat} {char : Char}
    (member : char ∈ padded width number) : char.isDigit = true := by
  rw [padded, List.mem_append, List.mem_replicate] at member
  rcases member with ⟨_, rfl⟩ | digit
  · rfl
  · exact Nat.isDigit_of_mem_toDigits (by decide) (by decide) digit

/-- A written number has at least one digit, whatever its width. -/
theorem padded_ne_nil (width number : Nat) : padded width number ≠ [] := by
  rw [padded]
  exact List.append_ne_nil_of_right_ne_nil _ Nat.toDigits_ne_nil

/-- A number that fits a width takes exactly this width. -/
theorem length_padded {width number : Nat} (positive : 0 < width)
    (fits : number < Nat.pow 10 width) : (padded width number).length = width := by
  have short : (Nat.toDigits 10 number).length ≤ width :=
    (Nat.length_toDigits_le_iff (by decide) positive).mpr fits
  rw [padded, List.length_append, List.length_replicate, Nat.sub_add_cancel short]

/-- A digit is a character of its own: neither white space nor a sign. -/
theorem isBlankChar_of_isDigit {char : Char} (digit : char.isDigit = true) :
    Text.isBlankChar char = false := by
  have range : 48 ≤ char.toNat ∧ char.toNat ≤ 57 := by
    rw [Char.isDigit, Bool.and_eq_true, decide_eq_true_eq, decide_eq_true_eq] at digit
    exact digit
  simp only [Text.isBlankChar, Text.inRanges, Text.blankRanges, List.any_cons, List.any_nil,
    Bool.or_false, Bool.or_eq_false_iff, Bool.and_eq_false_iff, decide_eq_false_iff_not]
  omega

/-- A text that starts with another character than white space is not shortened. -/
theorem trimStart_cons {char : Char} (visible : Text.isBlankChar char = false) (rest : List Char) :
    Text.trimStart (char :: rest) = char :: rest := by
  rw [Text.trimStart, List.dropWhile_cons, visible]
  rfl

/-- A text that starts with a number starts with a digit. -/
theorem exists_padded_eq_cons (width number : Nat) :
    ∃ first others, padded width number = first :: others ∧ first.isDigit = true := by
  cases digits : padded width number with
  | nil => exact absurd digits (padded_ne_nil width number)
  | cons first others =>
    have member : first ∈ padded width number := digits ▸ List.mem_cons_self
    exact ⟨first, others, rfl, isDigit_of_mem_padded member⟩

/-- A written number starts with no blank, so that trimming leaves it as it is. -/
theorem trimStart_padded (width number : Nat) (rest : List Char) :
    Text.trimStart (padded width number ++ rest) = padded width number ++ rest := by
  obtain ⟨first, others, digits, digit⟩ := exists_padded_eq_cons width number
  rw [digits]
  exact trimStart_cons (isBlankChar_of_isDigit digit) (others ++ rest)

/-- A number does not start with a character that is no digit. -/
theorem padded_ne_cons {char : Char} (apart : char.isDigit = false) (width number : Nat)
    (rest remaining : List Char) : padded width number ++ rest ≠ char :: remaining := by
  obtain ⟨first, others, digits, digit⟩ := exists_padded_eq_cons width number
  rw [digits]
  intro same
  rw [(List.cons.inj same).1, apart] at digit
  cases digit

/-! ## Reading -/

/-- Whether no digit comes first in a text. -/
def StartsApart (text : List Char) : Prop :=
  ∀ char, text.head? = some char → char.isDigit = false

/-- A text that starts with something else than a digit ends the number before it. -/
theorem startsApart_cons {char : Char} (apart : char.isDigit = false) (rest : List Char) :
    StartsApart (char :: rest) := by
  intro first same
  obtain rfl := Option.some.inj same
  exact apart

/-- Digits are taken up to a character that is none. -/
theorem takeWhile_digits {digits rest : List Char} (all : ∀ char ∈ digits, char.isDigit = true)
    (apart : StartsApart rest) : (digits ++ rest).takeWhile Char.isDigit = digits := by
  rw [List.takeWhile_append_of_pos all]
  cases rest with
  | nil => rw [List.takeWhile_nil, List.append_nil]
  | cons first others =>
    rw [List.takeWhile_cons, apart first rfl]
    exact List.append_nil digits

/-- Digits at the start of a text are read as the number that they write. -/
theorem readDigits_padded {width number : Nat} (rest : List Char) (small : number < Nat.pow 2 63) :
    readDigits (padded width number ++ rest) (padded width number) = .ok (number, rest) := by
  have notEmpty : ¬(padded width number).isEmpty = true := by
    rw [List.isEmpty_iff]
    exact padded_ne_nil width number
  have notShort : ¬(padded width number ++ rest).isEmpty = true := by
    rw [List.isEmpty_iff]
    exact List.append_ne_nil_of_left_ne_nil (padded_ne_nil width number) rest
  rw [readDigits, if_neg notShort, if_neg notEmpty, digitsValue_padded, if_pos small,
    List.drop_left]

/-- A number is read whatever follows when it takes all digits that are asked for, and otherwise
when no digit follows. -/
theorem readNumber_padded {width most number : Nat} {rest : List Char}
    (narrow : (padded width number).length ≤ most)
    (apart : (padded width number).length < most → StartsApart rest)
    (small : number < Nat.pow 2 63) :
    readNumber most (padded width number ++ rest) = .ok (number, rest) := by
  have apartStill : StartsApart (rest.take (most - (padded width number).length)) := by
    intro char first
    rw [List.head?_take] at first
    split at first
    · cases first
    · next more => exact apart (by omega) char first
  rw [readNumber, List.take_append, List.take_of_length_le narrow,
    takeWhile_digits (fun char member => isDigit_of_mem_padded member) apartStill,
    readDigits_padded rest small]

/-- A number of any length is read when no digit follows. -/
theorem readLongNumber_padded {width number : Nat} {rest : List Char} (apart : StartsApart rest)
    (small : number < Nat.pow 2 63) :
    readLongNumber (padded width number ++ rest) = .ok (number, rest) := by
  rw [readLongNumber, takeWhile_digits (fun char member => isDigit_of_mem_padded member) apart,
    readDigits_padded rest small]

/-- A part of two digits is read when it lies between its bounds. -/
theorem readPart_padded {least most number : Nat} (rest : List Char) (above : least ≤ number)
    (below : number ≤ most) (twoDigits : most ≤ 99) :
    readPart 2 least most (padded 2 number ++ rest) = .ok (number, rest) := by
  have fits : number < Nat.pow 10 2 := by
    change number < 100
    omega
  have exact : (padded 2 number).length = 2 := length_padded (by decide) fits
  have small : number < Nat.pow 2 63 := Nat.lt_trans fits (by decide)
  rw [readPart, trimStart_padded, readNumber_padded (Nat.le_of_eq exact)
    (fun narrower => absurd exact (Nat.ne_of_lt narrower)) small]
  exact if_pos ⟨above, below⟩

/-- A character that has to be there is passed over when it is there, also behind white space that
is not. -/
theorem expectChar_trimStart {expected : Char} (visible : Text.isBlankChar expected = false)
    (rest : List Char) : expectChar expected (Text.trimStart (expected :: rest)) = .ok rest := by
  rw [trimStart_cons visible, expectChar, if_pos rfl]

end Outbox.Calendar
