import Outbox.Database.Store
import Outbox.Dispatch.Site
import Outbox.Retention

/-!
# Sites with a database

Dispatch and retention runs at a site whose store is a database and whose broker is in memory. The
database is a list of replies that it gives to the statements one after the other; it keeps what it
was asked.
-/

namespace Outbox.Database

open Calendar

/-- A database that gives its replies from a list. -/
structure Script where
  /-- The replies to come. A statement without one succeeds and changes nothing. -/
  replies : List Reply
  /-- The failure of the statements that open and end a unit of work, if they fail. -/
  boundary : Option Failure
  /-- The statements so far, in order. -/
  asked : List Statement
  /-- A closed database is asked nothing any more. -/
  isClosed : Bool

namespace Script

/-- A database without replies. -/
def empty : Script := ⟨[], none, [], false⟩

/-- The reply to a statement and the database afterwards. -/
def reply (script : Script) (statement : Statement) : Reply × Script :=
  if script.isClosed then (.error .poolClosed, script)
  else
    let heard := { script with asked := script.asked ++ [statement] }
    if statement.isBoundary then
      (match script.boundary with
        | some failure => .error failure
        | none => .ok .empty, heard)
    else
      match script.replies with
      | [] => (.ok .empty, heard)
      | reply :: replies => (reply, { heard with replies })

end Script

/-- A database and a broker. -/
structure Site where
  database : Script
  broker : MemoryBroker

namespace Site

/-- Holds a conversation with the database. -/
def hold {Value : Type} (site : Site) (conversation : Conversation Value) : Value × Site :=
  let (value, database) := conversation.hold Script.reply site.database
  (value, { site with database })

/-- Calls the store. -/
def call (site : Site) (call : StoreCall) : Except StoreError call.Answer × Site :=
  site.hold (Database.call call)

/-- The answers of a site to a dispatch run. -/
def answer (sending : Sending) (site : Site) : (request : Request) → request.Answer × Site
  | .loadPending => site.call (.findByStatus .pending)
  | .loadDeliveries => site.call .deliveryStates
  | .deliver record =>
    match sending.sender.deliver sending.names sending.patience site.broker record with
    | .ok broker => (.ok (), { site with broker })
    | .error error => (.error error, site)
  | .markSent event moment => site.call (.updateStatus event .sent moment)
  | .clearDelivery event => site.call (.clearDelivery event)
  | .saveDelivery delivery => site.call (.saveDelivery delivery)

/-- A dispatch run at a site. -/
def dispatch (site : Site) (sending : Sending) (policy : RetryPolicy) (isLeader : Bool)
    (now : Timestamp) : TickOutcome × Site :=
  (Run.tick policy isLeader now).execute (answer sending) site

/-- A retention run at a site. -/
def retain (site : Site) (isLeader : Bool) (window : Int) (now : Timestamp) :
    RetentionOutcome × Site :=
  Retention.tick (fun cutoff => site.call (.deleteWhere .sent cutoff)) site isLeader window now

end Site

end Outbox.Database
