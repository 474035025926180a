import Outbox.Database.Command
import Outbox.Database.DeliveryRow
import Outbox.Database.RecordRow

/-!
# Statements

Everything that the program asks of its database. A statement is known by what it is for. It is a
command together with the values of its parameters, and the text of the command and these values are
what the server gets.
-/

namespace Outbox.Database

open Calendar

/-- A statement. -/
inductive Statement
  /-- Create the tables that do not exist yet. -/
  | schema
  | beginWork
  | commitWork
  | rollbackWork
  | insertRecord (record : EventRecord)
  /-- The records with a status, in the order of their creation. -/
  | recordsWithStatus (status : EventStatus)
  /-- Give a pending record another status. -/
  | updateStatus (event : Identifier) (status : EventStatus) (moment : Timestamp)
  | statusOf (event : Identifier)
  /-- Delete the records with a status that were last changed before a moment. -/
  | deleteRecords (status : EventStatus) (before : Timestamp)
  | statistics
  | deliveries
  | parkedDeliveries
  /-- Remember a delivery in the place of what was remembered of it before. -/
  | saveDelivery (delivery : Delivery)
  | clearDelivery (event : Identifier)
  /-- Let a parked delivery start again. -/
  | requeue (event : Identifier) (now : Timestamp)
  | categories

namespace Statement

/-- The command of a statement. -/
def command : Statement → Command
  | schema => .schema
  | beginWork => .beginWork
  | commitWork => .commitWork
  | rollbackWork => .rollbackWork
  | insertRecord _ => .insert .events RecordRow.columns none
  | recordsWithStatus _ =>
    .select .events RecordRow.columns [.compare (.column "status") .equal (.parameter 1)]
      [⟨"created", true⟩, ⟨"event_id", true⟩]
  | updateStatus .. =>
    .update .events [⟨"status", .parameter 2⟩, ⟨"updated", .parameter 3⟩]
      [.compare (.column "event_id") .equal (.parameter 1),
        .compare (.column "status") .equal (.parameter 4)]
  | statusOf _ =>
    .select .events ["status"] [.compare (.column "event_id") .equal (.parameter 1)] []
  | deleteRecords .. =>
    .delete .events [.compare (.column "status") .equal (.parameter 1),
      .compare (.column "updated") .less (.parameter 2)]
  | statistics =>
    let isIn (status : EventStatus) : Condition :=
      .compare (.column "status") .equal (.literal (.status status))
    .summarize .events [⟨.count, [isIn .pending], "pending"⟩, ⟨.count, [isIn .sent], "sent"⟩,
      ⟨.least "created", [isIn .pending], "oldest_pending"⟩]
  | deliveries => .select .deliveries DeliveryRow.columns [] []
  | parkedDeliveries =>
    .select .deliveries DeliveryRow.columns [.holds (.column "parked")] [⟨"event_id", false⟩]
  | saveDelivery _ =>
    .insert .deliveries DeliveryRow.columns (some ⟨"event_id",
      DeliveryRow.columns.tail.map fun column => ⟨column, .excluded column⟩⟩)
  | clearDelivery _ =>
    .delete .deliveries [.compare (.column "event_id") .equal (.parameter 1)]
  | requeue .. =>
    .update .deliveries [⟨"parked", .literal .falsity⟩, ⟨"attempts", .literal .zero⟩,
        ⟨"next_attempt_at", .parameter 2⟩]
      [.compare (.column "event_id") .equal (.parameter 1), .holds (.column "parked")]
  | categories => .select .categories ["code", "name"] [] []

/-- The text of a statement. -/
def text (statement : Statement) : String := statement.command.text

/-- The parameters of a statement, of which some statements have none to give. -/
def parameters? : Statement → Option (List Datum)
  | schema | beginWork | commitWork | rollbackWork => none
  | insertRecord record => some (RecordRow.ofRecord record).data
  | recordsWithStatus status => some [.text status.text]
  | updateStatus event status moment =>
    some [.uuid event, .text status.text, .ofMoment moment, .text EventStatus.pending.text]
  | statusOf event => some [.uuid event]
  | deleteRecords status before => some [.text status.text, .ofMoment before]
  | statistics => some []
  | deliveries => some []
  | parkedDeliveries => some []
  | saveDelivery delivery => some (DeliveryRow.data delivery)
  | clearDelivery event => some [.uuid event]
  | requeue event now => some [.uuid event, .ofMoment now]
  | categories => some []

/-- Whether a statement only opens or ends a unit of work. -/
def isBoundary : Statement → Bool
  | beginWork | commitWork | rollbackWork => true
  | _ => false

end Statement

end Outbox.Database
