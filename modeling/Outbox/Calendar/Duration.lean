import Outbox.Json.Codec

/-!
# Durations

A duration is a number of nanoseconds. Stored settings write it as whole seconds and the
nanoseconds of the last one; messages write it in the largest unit that it fills.
-/

namespace Outbox

open Json

/-- A length of time. -/
structure Duration where
  nanos : Nat
  deriving DecidableEq, Repr, Inhabited

namespace Duration

/-- No time at all. -/
def zero : Duration := ⟨0⟩

/-- A number of seconds. -/
def ofSeconds (seconds : Nat) : Duration := ⟨seconds * 1000000000⟩

/-- A number of milliseconds. -/
def ofMillis (millis : Nat) : Duration := ⟨millis * 1000000⟩

/-- The whole seconds. -/
def seconds (duration : Duration) : Nat := duration.nanos / 1000000000

/-- The whole milliseconds. -/
def millis (duration : Duration) : Nat := duration.nanos / 1000000

/-- A duration as a JSON value. -/
def json (duration : Duration) : Json :=
  .ofMembers [
    ("secs", .count duration.seconds),
    ("nanos", .count (duration.nanos % 1000000000))]

/-- The form of a stored duration. -/
def layout : Layout where
  name := "Duration"
  fields := [
    .required "secs" (decodeUnsigned 64),
    .required "nanos" (decodeUnsigned 32)]
  closed := true

/-- A duration from JSON. Nanoseconds beyond a second are carried over to the seconds, which have
    to stay below `2 ^ 64`. -/
def decode (source : Source) : Decoded Duration := do
  let fields ← layout.fieldsOf source
  let seconds ← fields.required "secs" (decodeUnsigned 64)
  let nanos ← fields.required "nanos" (decodeUnsigned 32)
  let duration : Duration := ⟨seconds * 1000000000 + nanos⟩
  if duration.seconds < Nat.pow 2 64 then return duration
  else throw (.unparsed "overflow deserializing Duration")

/-- A number with the digits of its fraction, whose last zeros are left out. -/
def decimalText (whole fraction width : Nat) : String :=
  let digits := Nat.toDigits 10 fraction
  let filled := List.replicate (width - digits.length) '0' ++ digits
  let shown := (filled.reverse.dropWhile (· = '0')).reverse
  toString whole ++ if shown.isEmpty then "" else "." ++ String.ofList shown

/-- The text of a duration in messages. -/
def text (duration : Duration) : String :=
  let nanos := duration.nanos
  if 1000000000 ≤ nanos then decimalText (nanos / 1000000000) (nanos % 1000000000) 9 ++ "s"
  else if 1000000 ≤ nanos then decimalText (nanos / 1000000) (nanos % 1000000) 6 ++ "ms"
  else if 1000 ≤ nanos then decimalText (nanos / 1000) (nanos % 1000) 3 ++ "µs"
  else toString nanos ++ "ns"

instance : Json.Codec Duration := ⟨json, decode⟩

end Duration

end Outbox
