import Outbox.Json.Codec
import Outbox.Text.Blank

/-!
# Calendar dates

A date is a day of the Gregorian calendar, carried on before its introduction and before the year
zero. Days are also counted from the first of January 1970, which turns a date and a time of day
into one number of seconds. Texts of dates are read leniently: white space may surround each part
and a month or a day may have one digit.
-/

namespace Outbox.Calendar

/-- Why a text is no date or time. -/
inductive ParseError
  /-- The text ends where a part is missing. -/
  | tooShort
  /-- A character stands where another one is expected. -/
  | invalid
  /-- A number is too large or too small for its part. -/
  | outOfRange
  /-- Something follows the last part. -/
  | trailing
  /-- The moment lies beyond the calendar once its offset is taken off. -/
  | unreachable
  deriving DecidableEq, Repr

/-- The message of an error. -/
def ParseError.message : ParseError → String
  | .tooShort => "premature end of input"
  | .invalid => "input contains invalid characters"
  | .outOfRange => "input is out of range"
  | .trailing => "trailing input"
  | .unreachable => "no possible date and time matching input"

/-! ## Days -/

/-- The first year of the calendar. -/
def firstYear : Int := -262143

/-- The last year of the calendar. -/
def lastYear : Int := 262142

/-- Whether a year has a day more. -/
def isLeapYear (year : Int) : Bool :=
  year % 4 = 0 && (year % 100 != 0 || year % 400 = 0)

/-- The days of a month. -/
def daysInMonth (year : Int) (month : Nat) : Nat :=
  if month = 2 then if isLeapYear year then 29 else 28
  else if month = 4 ∨ month = 6 ∨ month = 9 ∨ month = 11 then 30
  else 31

/-- Whether a year, a month and a day make a date. -/
def IsDate (year : Int) (month day : Nat) : Prop :=
  firstYear ≤ year ∧ year ≤ lastYear ∧ 1 ≤ month ∧ month ≤ 12 ∧ 1 ≤ day ∧
    day ≤ daysInMonth year month

instance (year : Int) (month day : Nat) : Decidable (IsDate year month day) :=
  inferInstanceAs (Decidable (_ ∧ _))

/-- A date. -/
structure Date where
  year : Int
  month : Nat
  day : Nat
  isDate : IsDate year month day
  deriving DecidableEq

namespace Date

instance : Inhabited Date := ⟨⟨1970, 1, 1, by decide⟩⟩

/-- Whether a date comes before another one. -/
def before (left right : Date) : Bool :=
  left.year < right.year ||
    left.year = right.year &&
      (left.month < right.month || left.month = right.month && left.day < right.day)

/-- The date of its parts, if there is one. -/
def ofParts? (year : Int) (month day : Nat) : Option Date :=
  if isDate : IsDate year month day then some ⟨year, month, day, isDate⟩ else none

end Date

/-- The days from the first of January 1970 to a date. The year is counted from March on, so that
    the day that leap years add is its last one; 400 years are 146097 days. -/
def dayNumber (year : Int) (month day : Nat) : Int :=
  let shifted := if month ≤ 2 then year - 1 else year
  let era := shifted / 400
  let yearOfEra := shifted - era * 400
  let monthFromMarch : Int := (month + 9) % 12
  let dayOfYear := (153 * monthFromMarch + 2) / 5 + day - 1
  let dayOfEra := yearOfEra * 365 + yearOfEra / 4 - yearOfEra / 100 + dayOfYear
  era * 146097 + dayOfEra - 719468

/-- The year, month and day of a day number. -/
def partsOfDay (number : Int) : Int × Nat × Nat :=
  let shifted := number + 719468
  let era := shifted / 146097
  let dayOfEra := shifted - era * 146097
  let yearOfEra := (dayOfEra - dayOfEra / 1460 + dayOfEra / 36524 - dayOfEra / 146096) / 365
  let dayOfYear := dayOfEra - (365 * yearOfEra + yearOfEra / 4 - yearOfEra / 100)
  let monthFromMarch := (5 * dayOfYear + 2) / 153
  let day := dayOfYear - (153 * monthFromMarch + 2) / 5 + 1
  let month := if monthFromMarch < 10 then monthFromMarch + 3 else monthFromMarch - 9
  let year := yearOfEra + era * 400 + if month ≤ 2 then 1 else 0
  (year, month.toNat, day.toNat)

/-! ## Written form -/

/-- A number with zeros before it up to a width. -/
def padded (width number : Nat) : List Char :=
  let digits := Nat.toDigits 10 number
  List.replicate (width - digits.length) '0' ++ digits

/-- A year with four digits, or with its sign when it has more or is below zero. -/
def yearText (year : Int) : List Char :=
  if year < 0 then '-' :: padded 4 year.natAbs
  else if 9999 < year then '+' :: padded 4 year.natAbs
  else padded 4 year.natAbs

/-- A year, a month and a day with hyphens between them. -/
def dayText (year : Int) (month day : Nat) : List Char :=
  yearText year ++ '-' :: padded 2 month ++ '-' :: padded 2 day

/-- The written form of a date. -/
def Date.text (date : Date) : String :=
  String.ofList (dayText date.year date.month date.day)

/-! ## Reading -/

/-- A text without a character that has to be there. -/
def expectChar (expected : Char) : List Char → Except ParseError (List Char)
  | [] => .error .tooShort
  | char :: rest => if char = expected then .ok rest else .error .invalid

/-- The number of the digits at the start of a text, of which there is at least one. -/
def readDigits (text : List Char) (digits : List Char) : Except ParseError (Nat × List Char) :=
  if text.isEmpty then .error .tooShort
  else if digits.isEmpty then .error .invalid
  else
    let value := Json.digitsValue digits
    if value < Nat.pow 2 63 then .ok (value, text.drop digits.length) else .error .outOfRange

/-- A number of at most some digits. -/
def readNumber (width : Nat) (text : List Char) : Except ParseError (Nat × List Char) :=
  readDigits text ((text.take width).takeWhile Char.isDigit)

/-- A number of any length. -/
def readLongNumber (text : List Char) : Except ParseError (Nat × List Char) :=
  readDigits text (text.takeWhile Char.isDigit)

/-- A number after white space, which has to lie between two bounds. -/
def readPart (width least most : Nat) (text : List Char) : Except ParseError (Nat × List Char) := do
  let (value, rest) ← readNumber width (Text.trimStart text)
  if least ≤ value ∧ value ≤ most then return (value, rest) else throw .outOfRange

/-- A year after white space: at most four digits, or any number of digits behind a sign. -/
def readYear (text : List Char) : Except ParseError (Int × List Char) := do
  let (year, rest) ← match Text.trimStart text with
    | '-' :: rest => (readLongNumber rest).map fun (value, rest) => (-(value : Int), rest)
    | '+' :: rest => (readLongNumber rest).map fun (value, rest) => ((value : Int), rest)
    | rest => (readNumber 4 rest).map fun (value, rest) => ((value : Int), rest)
  if -(Nat.pow 2 31 : Int) ≤ year ∧ year < (Nat.pow 2 31 : Int) then return (year, rest)
  else throw .outOfRange

/-- A year, a month and a day. -/
def readDay (text : List Char) : Except ParseError ((Int × Nat × Nat) × List Char) := do
  let (year, rest) ← readYear text
  let rest ← expectChar '-' (Text.trimStart rest)
  let (month, rest) ← readPart 2 1 12 rest
  let rest ← expectChar '-' (Text.trimStart rest)
  let (day, rest) ← readPart 2 1 31 rest
  return ((year, month, day), rest)

/-- Reads a date. -/
def Date.parse (text : String) : Except ParseError Date := do
  let ((year, month, day), rest) ← readDay text.toList
  unless (Text.trimStart rest).isEmpty do throw .trailing
  match ofParts? year month day with
  | some date => return date
  | none => throw .outOfRange

/-! ## JSON -/

/-- A date as a JSON value. -/
def Date.json (date : Date) : Json :=
  .string date.text

/-- A date from JSON. -/
def Date.decode (source : Json.Source) : Json.Decoded Date := do
  let text ← Json.decodeStringFor "a formatted date string" source
  (parse text).mapError fun error => .unparsed error.message

instance : Json.Codec Date := ⟨Date.json, Date.decode⟩

end Outbox.Calendar
