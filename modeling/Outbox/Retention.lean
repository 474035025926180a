import Outbox.Store.Memory

/-!
# Retention

Sent records are deleted some time after they were sent. Pending ones stay, however old they are.
-/

namespace Outbox

open Calendar

/-- How a retention run ends. -/
inductive RetentionOutcome
  /-- Another node leads. -/
  | skipped
  /-- The number of deleted records. -/
  | deleted (count : Nat)
  | failed (error : StoreError)
  /-- The window reaches beyond the calendar. -/
  | crashed

namespace Retention

/-- The time that a record is kept unless another one is set, in seconds. -/
def defaultWindow : Int := 30 * secondsPerDay

/-- The moment before which sent records have expired; nothing when the window reaches beyond the
    calendar. -/
def cutoff? (window : Int) (now : Timestamp) : Option Timestamp :=
  now.add? (-(window * nanosPerSecond))

/-- A retention run at a moment, which only the leader carries out and which keeps sent records for
    a span of nanoseconds. The deletion is given by the store: the number of the records and the
    store afterwards, or its failure. -/
def tickKeeping {Store : Type} (delete : Timestamp → Except StoreError Nat × Store) (store : Store)
    (isLeader : Bool) (span : Int) (now : Timestamp) : RetentionOutcome × Store :=
  if !isLeader then (.skipped, store)
  else
    match now.add? (-span) with
    | none => (.crashed, store)
    | some cutoff =>
      match delete cutoff with
      | (.ok count, store) => (.deleted count, store)
      | (.error error, store) => (.failed error, store)

/-- A retention run at a moment with a window in seconds. -/
def tick {Store : Type} (delete : Timestamp → Except StoreError Nat × Store) (store : Store)
    (isLeader : Bool) (window : Int) (now : Timestamp) : RetentionOutcome × Store :=
  tickKeeping delete store isLeader (window * nanosPerSecond) now

/-- The longest window for which there is a span of time, in seconds. -/
def longestWindow : Nat := 9223372036854775

end Retention

end Outbox
