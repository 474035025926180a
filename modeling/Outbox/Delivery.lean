import Outbox.Calendar.Timestamp
import Outbox.Identifier

/-!
# Deliveries

For a record whose delivery has failed, the outbox remembers how often it was tried, what went
wrong last, when it may be tried again, and whether it has been parked for an operator. The record
itself does not change.
-/

namespace Outbox

open Calendar Json

/-- What is remembered about the failed deliveries of a record. -/
structure Delivery where
  event : Identifier
  attempts : Nat
  lastError : String
  nextAttemptAt : Timestamp
  parked : Bool
  deriving DecidableEq, Inhabited

namespace Delivery

/-- Whether the record may be tried at a moment. -/
def isDue (delivery : Delivery) (now : Timestamp) : Bool :=
  !delivery.parked && delivery.nextAttemptAt.upTo now

/-- The delivery after an operator has asked for another round of attempts from a moment on. -/
def requeued (delivery : Delivery) (now : Timestamp) : Delivery :=
  { delivery with attempts := 0, nextAttemptAt := now, parked := false }

/-- A delivery as a JSON value. -/
def json (delivery : Delivery) : Json :=
  .ofMembers [
    ("event_id", delivery.event.json),
    ("attempts", .count delivery.attempts),
    ("last_error", .string delivery.lastError),
    ("next_attempt_at", delivery.nextAttemptAt.json),
    ("parked", .bool delivery.parked)]

/-- The form of a stored delivery. -/
def layout : Layout where
  name := "DeliveryState"
  fields := [
    .required "event_id" Identifier.decode,
    .required "attempts" (decodeUnsigned 32),
    .required "last_error" decodeString,
    .required "next_attempt_at" Timestamp.decode,
    .required "parked" decodeBool]

/-- A delivery from JSON. -/
def decode (source : Source) : Decoded Delivery := do
  let fields ← layout.fieldsOf source
  return {
    event := ← fields.required "event_id" Identifier.decode
    attempts := ← fields.required "attempts" (decodeUnsigned 32)
    lastError := ← fields.required "last_error" decodeString
    nextAttemptAt := ← fields.required "next_attempt_at" Timestamp.decode
    parked := ← fields.required "parked" decodeBool }

instance : Json.Codec Delivery := ⟨json, decode⟩

end Delivery

end Outbox
