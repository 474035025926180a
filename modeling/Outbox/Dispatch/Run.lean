import Outbox.Dispatch.Deliver
import Outbox.Retry
import Outbox.Store.Memory

/-!
# Dispatch runs

A dispatch run delivers the pending records one after the other in the order of their creation,
marks each one as sent only after the broker has acknowledged it, and remembers each failure. It
works on the records and deliveries that it loaded at its start. A failed load ends the run, and so
does a store that cannot be reached; any other failure concerns one record.

A run is a tree of requests to its surroundings. What the surroundings do between two requests is
left open, so several runs may be interleaved and every request may fail.
-/

namespace Outbox

open Calendar

/-- What a dispatch run asks of its surroundings. -/
inductive Request
  /-- The pending records. -/
  | loadPending
  /-- What is remembered of all deliveries. -/
  | loadDeliveries
  /-- Deliver a record. -/
  | deliver (record : EventRecord)
  /-- Note that a record has been sent. -/
  | markSent (event : Identifier) (moment : Timestamp)
  /-- Forget the delivery of a record. -/
  | clearDelivery (event : Identifier)
  /-- Remember a delivery. -/
  | saveDelivery (delivery : Delivery)

/-- The answers to a request. -/
def Request.Answer : Request → Type
  | .loadPending => Except StoreError (List EventRecord)
  | .loadDeliveries => Except StoreError (Table Delivery.event)
  | .deliver _ => Except DispatchError Unit
  | .markSent _ _ => Except StoreError Unit
  | .clearDelivery _ => Except StoreError Unit
  | .saveDelivery _ => Except StoreError Unit

/-- What happened to the records of a run. -/
structure Report where
  /-- The pending records that were loaded. -/
  considered : Nat
  sent : Nat
  failed : Nat
  /-- The records whose next attempt lies in the future, or that are parked. -/
  deferred : Nat
  /-- The failed records that were parked. -/
  parked : Nat
  deriving DecidableEq, Repr

/-- The report of a run that has done nothing. -/
def Report.empty : Report := ⟨0, 0, 0, 0, 0⟩

/-- A report as a JSON value. -/
def Report.json (report : Report) : Json :=
  .ofMembers [
    ("considered", .count report.considered),
    ("sent", .count report.sent),
    ("failed", .count report.failed),
    ("deferred", .count report.deferred),
    ("parked", .count report.parked)]

/-- How a run ends. -/
inductive TickOutcome
  /-- Another node leads. -/
  | skipped
  | completed (report : Report)
  /-- The store failed. The records after that point were left alone. -/
  | aborted (report : Report) (error : StoreError)
  /-- The next attempt of a record lies beyond the calendar. -/
  | crashed

/-- The report of a run, if it has come to one. -/
def TickOutcome.report? : TickOutcome → Option Report
  | .completed report | .aborted report _ => some report
  | .skipped | .crashed => none

/-- A run: it has ended, or asks something and goes on with the answer. -/
inductive Run
  | done (outcome : TickOutcome)
  | ask (request : Request) (resume : request.Answer → Run)

namespace Run

/-- Goes on after a request to the store that changed a single record, unless the store cannot be
    reached. -/
def afterWrite (report : Report) (next : Run) (onRefused : Run) :
    Except StoreError Unit → Run
  | .ok () => next
  | .error error => if error.isUnavailable then .done (.aborted report error) else onRefused

/-- What follows an acknowledged delivery. -/
def acknowledged (now : Timestamp) (record : EventRecord) (previous : Option Delivery)
    (report : Report) (next : Report → Run) : Run :=
  let sent := { report with sent := report.sent + 1 }
  let finish := next sent
  .ask (.markSent record.id now) <|
    afterWrite report
      (if previous.isSome then
        .ask (.clearDelivery record.id) (afterWrite sent finish finish)
      else finish)
      (next { report with failed := report.failed + 1 })

/-- What follows a failed delivery. -/
def refused (policy : RetryPolicy) (now : Timestamp) (record : EventRecord)
    (previous : Option Delivery) (error : DispatchError) (report : Report)
    (next : Report → Run) : Run :=
  match policy.recordFailure? previous record.id error.message now with
  | none => .done .crashed
  | some delivery =>
    let failed := { report with
      failed := report.failed + 1
      parked := report.parked + if delivery.parked then 1 else 0 }
    let finish := next failed
    .ask (.saveDelivery delivery) (afterWrite failed finish finish)

/-- The records of a run one after the other. Each one takes the delivery that is remembered for it
    out of the ones that were loaded. -/
def through (policy : RetryPolicy) (now : Timestamp) :
    List EventRecord → Table Delivery.event → Report → Run
  | [], _, report => .done (.completed report)
  | record :: rest, deliveries, report =>
    let previous := deliveries.find? record.id
    let next := through policy now rest (deliveries.erase record.id)
    if previous.any fun delivery => !delivery.isDue now then
      next { report with deferred := report.deferred + 1 }
    else
      .ask (.deliver record) fun
        | .ok () => acknowledged now record previous report next
        | .error error => refused policy now record previous error report next

/-- A dispatch run at a moment, which only the leader carries out. -/
def tick (policy : RetryPolicy) (isLeader : Bool) (now : Timestamp) : Run :=
  if !isLeader then .done .skipped
  else
    .ask .loadPending fun
      | .error error => .done (.aborted .empty error)
      | .ok pending =>
        .ask .loadDeliveries fun
          | .error error => .done (.aborted .empty error)
          | .ok deliveries =>
            through policy now (MemoryStore.inOrder pending) deliveries
              { Report.empty with considered := pending.length }

/-- Carries out a run in surroundings that answer every request and may change with it. -/
def execute {World : Type} (answer : World → (request : Request) → request.Answer × World) :
    Run → World → TickOutcome × World
  | .done outcome, world => (outcome, world)
  | .ask request resume, world =>
    let (reply, world) := answer world request
    (resume reply).execute answer world

end Run

end Outbox
