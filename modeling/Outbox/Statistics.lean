import Outbox.Calendar.Timestamp

/-!
# The state of the backlog

Operators see how many records are pending and how many are sent, and how long the oldest pending
one has been waiting.
-/

namespace Outbox

open Calendar Json

/-- How many records there are, and since when one has been waiting. -/
structure Statistics where
  pending : Nat
  sent : Nat
  oldestPendingCreated : Option Timestamp
  deriving DecidableEq, Inhabited

namespace Statistics

/-- The whole seconds that the oldest pending record has been waiting at a moment. One from the
    future has not been waiting. -/
def oldestPendingAge (statistics : Statistics) (now : Timestamp) : Option Int :=
  statistics.oldestPendingCreated.map fun created => max (now.secondsSince created) 0

/-- Statistics as a JSON value. -/
def json (statistics : Statistics) : Json :=
  .ofMembers [
    ("pending", .count statistics.pending),
    ("sent", .count statistics.sent),
    ("oldest_pending_created", ofOption Timestamp.json statistics.oldestPendingCreated)]

/-- The form of stored statistics. -/
def layout : Layout where
  name := "OutboxStats"
  fields := [
    .required "pending" (decodeUnsigned 64),
    .required "sent" (decodeUnsigned 64),
    .nullable "oldest_pending_created" Timestamp.decode]

/-- Statistics from JSON. -/
def decode (source : Source) : Decoded Statistics := do
  let fields ← layout.fieldsOf source
  return {
    pending := ← fields.required "pending" (decodeUnsigned 64)
    sent := ← fields.required "sent" (decodeUnsigned 64)
    oldestPendingCreated := ← fields.optional "oldest_pending_created" Timestamp.decode }

instance : Json.Codec Statistics := ⟨json, decode⟩

end Statistics

end Outbox
