import Outbox.Database.Row
import Outbox.Delivery

/-!
# Rows of deliveries

What is remembered of a delivery is stored in a row of its own. Its column for the attempts is
narrower than their number, so a larger one is stored as the largest that fits, and a row that
somebody else wrote may count below zero, which is read as none.
-/

namespace Outbox.Database.DeliveryRow

/-- The names of the columns. -/
def columns : List String := ["event_id", "attempts", "last_error", "next_attempt_at", "parked"]

/-- The largest number of attempts in a row. -/
def mostAttempts : Nat := 2147483647

/-- The values of the columns for a delivery, in order. -/
def data (delivery : Delivery) : List Datum :=
  [.uuid delivery.event, .int4 (min delivery.attempts mostAttempts), .text delivery.lastError,
    .ofMoment delivery.nextAttemptAt, .bool delivery.parked]

/-- Reads the delivery in a row, its attempts first. -/
def read (row : Row) : Except Failure Delivery := do
  let attempts ← row.get .int4 "attempts"
  return {
    event := ← row.get .uuid "event_id"
    attempts := attempts.toNat
    lastError := ← row.get .text "last_error"
    nextAttemptAt := ← row.get .timestamptz "next_attempt_at"
    parked := ← row.get .bool "parked" }

end Outbox.Database.DeliveryRow
