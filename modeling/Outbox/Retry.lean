import Outbox.Calendar.Duration
import Outbox.Decimal.Binary64
import Outbox.Delivery

/-!
# Retries

After each failed delivery a record waits before it is tried again, and after some failures it is
parked. Waiting times are whole milliseconds and are computed with 53 significant bits, which is
exact below `2 ^ 53` milliseconds.
-/

namespace Outbox

open Calendar Json

/-- How the waiting time grows with the number of failures. -/
inductive Backoff
  /-- It stays the same. -/
  | fixed
  /-- It doubles with each failure. -/
  | exponential
  /-- It is a multiple of the first one. -/
  | linear
  deriving DecidableEq, Repr

namespace Backoff

/-- The written form. -/
def text : Backoff → String
  | fixed => "fixed"
  | exponential => "exponential"
  | linear => "linear"

/-- The ways of growth with their written forms. -/
def known : List (String × Backoff) :=
  [fixed, exponential, linear].map fun backoff => (backoff.text, backoff)

instance : Json.Codec Backoff := .named text known

end Backoff

/-- When a failed record is tried again, and when no more. -/
structure RetryPolicy where
  /-- The number of failures after which a record is parked; without one it never is. -/
  maxAttempts : Option Nat
  baseDelay : Duration
  maxDelay : Duration
  strategy : Backoff
  deriving DecidableEq, Repr

namespace RetryPolicy

/-- Twenty attempts, from a quarter of a minute up to an hour apart. -/
def default : RetryPolicy where
  maxAttempts := some 20
  baseDelay := .ofSeconds 15
  maxDelay := .ofSeconds 3600
  strategy := .exponential

instance : Inhabited RetryPolicy := ⟨default⟩

/-- Attempts without end and without waiting. -/
def immediate : RetryPolicy where
  maxAttempts := none
  baseDelay := .zero
  maxDelay := .zero
  strategy := .fixed

/-- Waiting times that double. -/
def exponential (maxAttempts : Option Nat) (baseDelay maxDelay : Duration) : RetryPolicy where
  maxAttempts
  baseDelay
  maxDelay
  strategy := .exponential

/-- The largest number of milliseconds that a waiting time can have. -/
def longestDelay : Nat := Nat.pow 2 64 - 1

/-- The milliseconds to wait after a failure, which count from one. More than 62 doublings make no
    difference. -/
def delayMillis (policy : RetryPolicy) (attempt : Nat) : Nat :=
  let base := Decimal.roundToBits policy.baseDelay.millis
  let most := Decimal.roundToBits policy.maxDelay.millis
  let delay := match policy.strategy with
    | .fixed => base
    | .exponential => base * Nat.pow 2 (min (attempt - 1) 62)
    | .linear => Decimal.roundToBits (base * attempt)
  if attempt = 0 then 0 else min (min delay most) longestDelay

/-- The time to wait after a failure. -/
def delayForAttempt (policy : RetryPolicy) (attempt : Nat) : Duration :=
  .ofMillis (policy.delayMillis attempt)

/-- Whether a record is parked after a number of failures. -/
def shouldPark (policy : RetryPolicy) (attempts : Nat) : Bool :=
  match policy.maxAttempts with
  | some most => most ≤ attempts
  | none => false

/-- The largest number of milliseconds that can be added to a moment. -/
def longestSpan : Nat := Nat.pow 2 63 - 1

/-- The nanoseconds from a failure to the next attempt. A waiting time that cannot be added to a
    moment counts as a day. -/
def waitingSpan (policy : RetryPolicy) (attempt : Nat) : Int :=
  let millis := policy.delayMillis attempt
  if millis ≤ longestSpan then (Duration.ofMillis millis).nanos
  else (Duration.ofSeconds secondsPerDay).nanos

/-- The largest number of attempts that is counted. -/
def mostAttempts : Nat := Nat.pow 2 32 - 1

/-- What is remembered after one more failure of a record; nothing when the next attempt would lie
    beyond the calendar. -/
def recordFailure? (policy : RetryPolicy) (previous : Option Delivery) (event : Identifier)
    (error : String) (now : Timestamp) : Option Delivery :=
  let attempts := min ((previous.map Delivery.attempts).getD 0 + 1) mostAttempts
  (now.add? (policy.waitingSpan attempts)).map fun nextAttemptAt => {
    event, attempts, nextAttemptAt
    lastError := error
    parked := policy.shouldPark attempts }

/-- A policy as a JSON value. -/
def json (policy : RetryPolicy) : Json :=
  .ofMembers [
    ("max_attempts", ofOption Json.count policy.maxAttempts),
    ("base_delay", policy.baseDelay.json),
    ("max_delay", policy.maxDelay.json),
    ("strategy", .string policy.strategy.text)]

/-- The form of a stored policy. -/
def layout : Layout where
  name := "RetryPolicy"
  fields := [
    .nullable "max_attempts" (decodeUnsigned 32),
    .required "base_delay" Duration.decode,
    .required "max_delay" Duration.decode,
    .required "strategy" (decodeNamed Backoff.known)]

/-- A policy from JSON. -/
def decode (source : Source) : Decoded RetryPolicy := do
  let fields ← layout.fieldsOf source
  return {
    maxAttempts := ← fields.optional "max_attempts" (decodeUnsigned 32)
    baseDelay := ← fields.required "base_delay" Duration.decode
    maxDelay := ← fields.required "max_delay" Duration.decode
    strategy := ← fields.required "strategy" (decodeNamed Backoff.known) }

instance : Json.Codec RetryPolicy := ⟨json, decode⟩

end RetryPolicy

end Outbox
