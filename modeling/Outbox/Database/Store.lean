import Outbox.Database.Conversation
import Outbox.Enqueue
import Outbox.Reference
import Outbox.Store.Call

/-!
# The store in a database

The operations of the store as conversations with a database. Each one sends the statement that
does its work and reads what comes back. When a record did not change its status, a second
statement finds out why.
-/

namespace Outbox.Database

open Calendar

/-- Creates the tables that do not exist yet. -/
def ensureSchema : Operation Unit := do
  let _ ← Operation.send "ensure_schema" .schema

/-- Opens a unit of work. -/
def beginWork : Operation Unit := do
  let _ ← Operation.send "begin" .beginWork

/-- Stores a new record, in the open unit of work if there is one. -/
def insert (record : EventRecord) : Operation Unit :=
  ExceptT.mk (.ask (.insertRecord record) fun
    | .ok _ => .done (.ok ())
    | .error failure =>
      if failure.isUniqueViolation then .done (.error (.duplicate record.id))
      else .done (.error (failure.during "insert")))

/-- The records with a status, in the order of their creation. -/
def findByStatus (status : EventStatus) : Operation (List EventRecord) := do
  let result ← Operation.send "find_by_status" (.recordsWithStatus status)
  ExceptT.mk (.done (RecordRow.records (result.rows.map fun row =>
    (RecordRow.read row).mapError (Failure.during "decode outbox row"))))

/-- The status of a record. -/
def currentStatus (event : Identifier) : Operation EventStatus := do
  let result ← Operation.send "current_status" (.statusOf event)
  match result.rows with
  | [] => throw (.notFound event)
  | row :: _ =>
    let status ← Operation.reading "current_status" (row.getAt .text 0)
    ExceptT.mk (.done ((EventStatus.parse status).mapError fun error => .corrupt error.message))

/-- Gives a record another status. A pending record can be marked as sent; nothing else changes. -/
def updateStatus (event : Identifier) (status : EventStatus) (moment : Timestamp) :
    Operation Unit := do
  if status = .sent then
    let result ← Operation.send "update_status" (.updateStatus event status moment)
    if result.affected = 0 then
      throw (.illegalTransition event (← currentStatus event) status)
  else
    throw (.illegalTransition event (← currentStatus event) status)

/-- Deletes the records with a status that were last changed before a moment: their number. -/
def deleteWhere (status : EventStatus) (before : Timestamp) : Operation Nat := do
  let result ← Operation.send "delete_where" (.deleteRecords status before)
  return result.affected

/-- Counts the records. -/
def statistics : Operation Statistics := do
  let result ← Operation.send "stats" .statistics
  Operation.reading "stats" (do
    let row ← match result.rows with
      | [] => .error .rowNotFound
      | row :: _ => .ok row
    let pending ← row.get .int8 "pending"
    let sent ← row.get .int8 "sent"
    let oldest ← row.get (.orMissing .timestamptz) "oldest_pending"
    return ⟨pending.toNat, sent.toNat, oldest⟩)

/-- Reads rows of deliveries. -/
def readDeliveries (rows : List Row) : Operation (List Delivery) :=
  Operation.reading "decode delivery row" (rows.mapM DeliveryRow.read)

/-- What is remembered of all deliveries. -/
def deliveryStates : Operation (Table Delivery.event) := do
  let result ← Operation.send "delivery_states" .deliveries
  return .ofList (← readDeliveries result.rows)

/-- Remembers a delivery. -/
def saveDelivery (delivery : Delivery) : Operation Unit := do
  let _ ← Operation.send "save_delivery_state" (.saveDelivery delivery)

/-- Forgets a delivery. -/
def clearDelivery (event : Identifier) : Operation Unit := do
  let _ ← Operation.send "clear_delivery_state" (.clearDelivery event)

/-- The parked deliveries in the order of the server. -/
def parked : Operation (List Delivery) := do
  let result ← Operation.send "parked" .parkedDeliveries
  readDeliveries result.rows

/-- Lets a parked record be tried again from a moment on; says whether it was parked. -/
def requeue (event : Identifier) (now : Timestamp) : Operation Bool := do
  let result ← Operation.send "requeue" (.requeue event now)
  return 0 < result.affected

/-- Answers a call of the store. -/
def call : (call : StoreCall) → Operation call.Answer
  | .save record => insert record
  | .findByStatus status => findByStatus status
  | .updateStatus event status moment => updateStatus event status moment
  | .deleteWhere status before => deleteWhere status before
  | .statistics => statistics
  | .deliveryStates => deliveryStates
  | .saveDelivery delivery => saveDelivery delivery
  | .clearDelivery event => clearDelivery event
  | .parked => parked
  | .requeue event now => requeue event now

/-- Enqueues an event in the open unit of work. -/
def enqueue (registry : Registry) (request : EnqueueRequest) (id : Identifier) (now : Timestamp) :
    Conversation (Except EnqueueError EventRecord) :=
  match request.record registry id now with
  | .error error => .done (.error error)
  | .ok record => do
    let outcome ← (insert record).run
    return (outcome.mapError EnqueueError.store).map fun () => record

/-- Asks for the names of the product categories. -/
def categories : Conversation SourceAnswer :=
  .ask .categories fun reply => .done ((do
    let result ← reply
    let entries ← result.rows.mapM fun row : Row =>
      return (← row.getAt .text 0, ← row.getAt .text 1)
    return Dictionary.ofList entries : Except Failure (Dictionary String)).mapError
      fun failure => ⟨failure.message⟩)

/-- Ends the open unit of work. -/
def finishWork (keep : Bool) : Conversation (Except Failure Unit) :=
  .ask (if keep then .commitWork else .rollbackWork) fun reply =>
    .done (reply.map fun _ => ())

end Outbox.Database
