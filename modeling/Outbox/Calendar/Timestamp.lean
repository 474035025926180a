import Outbox.Calendar.Date

/-!
# Moments in time

A moment counts the seconds since the start of 1970 in Coordinated Universal Time and the
nanoseconds of its second. A leap second is the second before it with more than one billion
nanoseconds: it may end any minute, and no other second is that long. `Timestamp.add?` says how a
span of time leads out of a leap second, and `Timestamp.secondsSince` how two moments differ.
-/

namespace Outbox.Calendar

/-- The nanoseconds of a second. -/
def nanosPerSecond : Nat := 1000000000

/-- The seconds of a day. -/
def secondsPerDay : Nat := 86400

/-- The first second of the calendar. -/
def firstSecond : Int := -8334601228800

example : firstSecond = dayNumber firstYear 1 1 * secondsPerDay := by decide

/-- The last second of the calendar. -/
def lastSecond : Int := 8210266876799

example : lastSecond = dayNumber lastYear 12 31 * secondsPerDay + (secondsPerDay - 1) := by decide

/-- Whether a number of seconds and nanoseconds is a moment. Only the last second of a minute can
    go on as a leap second. -/
def IsMoment (seconds : Int) (nanos : Nat) : Prop :=
  firstSecond ≤ seconds ∧ seconds ≤ lastSecond ∧ nanos < 2 * nanosPerSecond ∧
    (nanosPerSecond ≤ nanos → seconds % 60 = 59)

instance (seconds : Int) (nanos : Nat) : Decidable (IsMoment seconds nanos) :=
  inferInstanceAs (Decidable (_ ∧ _))

/-- A moment. -/
structure Timestamp where
  seconds : Int
  nanos : Nat
  isMoment : IsMoment seconds nanos
  deriving DecidableEq

namespace Timestamp

instance : Inhabited Timestamp := ⟨⟨0, 0, by decide⟩⟩

/-- The moment of its parts, if there is one. -/
def ofParts? (seconds : Int) (nanos : Nat) : Option Timestamp :=
  if isMoment : IsMoment seconds nanos then some ⟨seconds, nanos, isMoment⟩ else none

/-- Whether the moment lies in a leap second. -/
def isLeap (moment : Timestamp) : Bool :=
  nanosPerSecond ≤ moment.nanos

/-- Whether a moment comes before another one. -/
def before (left right : Timestamp) : Bool :=
  left.seconds < right.seconds || left.seconds = right.seconds && left.nanos < right.nanos

/-- Whether a moment comes before another one or is the same. -/
def upTo (left right : Timestamp) : Bool :=
  !right.before left

/-! ## Spans of time -/

/-- The moment a number of nanoseconds later, or earlier when it is below zero; nothing when that
    lies beyond the calendar. A span that stays inside a leap second moves within it. One that
    leads out of it forwards counts from the second before it, and one that leads out backwards
    from the second behind it. -/
def add? (moment : Timestamp) (span : Int) : Option Timestamp :=
  let wholeSeconds := span.tdiv nanosPerSecond
  let rest := span.tmod nanosPerSecond
  let settle (seconds nanos : Int) : Option Timestamp :=
    let total := nanos + rest
    ofParts? (seconds + wholeSeconds + total / nanosPerSecond) (total % nanosPerSecond).toNat
  let nanos : Int := moment.nanos
  if moment.isLeap then
    if 0 < wholeSeconds ∨ 0 < rest ∧ 2 * nanosPerSecond ≤ nanos + rest then
      settle moment.seconds (nanos - nanosPerSecond)
    else if wholeSeconds < 0 then settle (moment.seconds + 1) (nanos - nanosPerSecond)
    else ofParts? moment.seconds (nanos + rest).toNat
  else settle moment.seconds nanos

/-- The nanoseconds from a moment to another one. A leap second counts when the later time of day
    lies behind it. -/
def nanosSince (later earlier : Timestamp) : Int :=
  let timeOfDay := later.seconds % secondsPerDay
  let timeOfDay' := earlier.seconds % secondsPerDay
  let passed : Int :=
    if timeOfDay' < timeOfDay then if earlier.isLeap then 1 else 0
    else if timeOfDay < timeOfDay' then if later.isLeap then -1 else 0
    else 0
  (later.seconds - earlier.seconds + passed) * nanosPerSecond + later.nanos - earlier.nanos

/-- The whole seconds from a moment to another one, without the rest of the last one. -/
def secondsSince (later earlier : Timestamp) : Int :=
  (later.nanosSince earlier).tdiv nanosPerSecond

/-! ## Whole microseconds -/

/-- The first second of the year 2000. -/
def secondsTo2000 : Int := 946684800

/-- The moment in whole microseconds, from the start of the year 2000: what is left of a microsecond
    is cut off towards that moment. A leap second is counted on into the next minute. -/
def wholeMicros (moment : Timestamp) : Timestamp :=
  let nanos := (moment.seconds - secondsTo2000) * nanosPerSecond + moment.nanos
  let whole := nanos.tdiv 1000 * 1000
  (ofParts? (secondsTo2000 + whole / nanosPerSecond) (whole % nanosPerSecond).toNat).getD moment

/-! ## Written form -/

/-- The fraction of a second with three, six or nine digits, as few as write it exactly, and
    nothing for a whole second. -/
def fractionText (nanos : Nat) : List Char :=
  if nanos = 0 then []
  else if nanos % 1000000 = 0 then '.' :: padded 3 (nanos / 1000000)
  else if nanos % 1000 = 0 then '.' :: padded 6 (nanos / 1000)
  else '.' :: padded 9 nanos

/-- The date and the time of day, up to the fraction of the second. A leap second is number
    sixty. -/
def dateTimeText (moment : Timestamp) : List Char :=
  let (year, month, day) := partsOfDay (moment.seconds / secondsPerDay)
  let timeOfDay := (moment.seconds % secondsPerDay).toNat
  let second := timeOfDay % 60 + if moment.isLeap then 1 else 0
  dayText year month day ++ 'T' :: padded 2 (timeOfDay / 3600) ++
    ':' :: padded 2 (timeOfDay / 60 % 60) ++ ':' :: padded 2 second

/-- The written form. -/
def text (moment : Timestamp) : String :=
  String.ofList (moment.dateTimeText ++ fractionText (moment.nanos % nanosPerSecond) ++ ['Z'])

/-! ## Reading -/

/-- The nanoseconds of the digits behind a decimal point; more than nine do not count. -/
def readFraction (text : List Char) : Except ParseError (Nat × List Char) := do
  let (value, rest) ← readNumber 9 text
  let digits := text.length - rest.length
  return (value * Nat.pow 10 (9 - digits), rest.dropWhile Char.isDigit)

/-- The seconds and nanoseconds of a time of day. Second number sixty is a leap second. -/
def readTimeOfDay (text : List Char) : Except ParseError ((Nat × Nat) × List Char) := do
  let (hour, rest) ← readPart 2 0 23 text
  let rest ← expectChar ':' (Text.trimStart rest)
  let (minute, rest) ← readPart 2 0 59 rest
  let rest ← expectChar ':' (Text.trimStart rest)
  let (second, rest) ← readPart 2 0 60 rest
  let (fraction, rest) ← match rest with
    | '.' :: rest => readFraction rest
    | _ => .ok (0, rest)
  let seconds := hour * 3600 + minute * 60 + min second 59
  let nanos := fraction + if second = 60 then nanosPerSecond else 0
  return ((seconds, nanos), Text.trimStart rest)

/-- Two digits of an offset, unless fewer than two bytes are left. -/
def readPair (text : List Char) : Except ParseError (Nat × List Char) :=
  match text with
  | [] => .error .tooShort
  | [char] => if char.utf8Size < 2 then .error .tooShort else .error .invalid
  | first :: second :: rest =>
    if first.isDigit ∧ second.isDigit then .ok (Json.digitsValue [first, second], rest)
    else .error .invalid

/-- The seconds of an offset from Coordinated Universal Time: `UTC` or `Z` in either case, or a
    sign, hours and minutes with colons or white space between them. -/
def readOffset (text : List Char) : Except ParseError (Int × List Char) := do
  if (text.take 3).map Char.toUpper = ['U', 'T', 'C'] then return (0, text.drop 3)
  let (sign, rest) ← match text with
    | 'Z' :: rest => return (0, rest)
    | 'z' :: rest => return (0, rest)
    | '+' :: rest => .ok ((1 : Int), rest)
    | '-' :: rest => .ok (-1, rest)
    | '\u2212' :: rest => .ok (-1, rest)
    | [] => throw .tooShort
    | _ => throw .invalid
  let (hours, rest) ← readPair rest
  let rest := rest.dropWhile fun char => char = ':' || Text.isBlankChar char
  let (minutes, rest) ← readPair rest
  if 59 < minutes then throw .outOfRange
  return (sign * (hours * 3600 + minutes * 60), rest)

/-- Reads a date, a time of day and an offset. -/
def parse (text : String) : Except ParseError Timestamp := do
  let ((year, month, day), rest) ← readDay text.toList
  let rest ← match rest with
    | [] => throw .tooShort
    | char :: rest =>
      if char = 'T' ∨ char = 't' ∨ char = ' ' then .ok rest else throw .invalid
  let ((seconds, nanos), rest) ← readTimeOfDay rest
  let (offset, rest) ← readOffset rest
  unless (Text.trimStart rest).isEmpty do throw .trailing
  if (Date.ofParts? year month day).isNone then throw .outOfRange
  if secondsPerDay ≤ offset.natAbs then throw .outOfRange
  match ofParts? (dayNumber year month day * secondsPerDay + seconds - offset) nanos with
  | some moment => return moment
  | none => throw .unreachable

/-! ## JSON -/

/-- A moment as a JSON value. -/
def json (moment : Timestamp) : Json :=
  .string moment.text

/-- A moment from JSON. -/
def decode (source : Json.Source) : Json.Decoded Timestamp := do
  let text ← Json.decodeStringFor "an RFC 3339 formatted date and time string" source
  (parse text).mapError fun error => .unparsed error.message

instance : Json.Codec Timestamp := ⟨json, decode⟩

end Timestamp

end Outbox.Calendar
