import Outbox.Broker.Stream
import Outbox.Database.Store
import Outbox.Dispatch.Site
import Outbox.Relay.Response
import Outbox.Retention

/-!
# Steps of a rehearsal

A rehearsal plays a script against an outbox, one step after the other. A step calls the store,
works in a unit of work, sends an envelope, runs a job, or lets something fail from now on. What
can be rehearsed depends on the place; a step that makes no sense there is refused.
-/

namespace Outbox.Rehearsal

open Calendar

/-- A step. -/
inductive Step
  | call (call : StoreCall)
  /-- Open a unit of work under a name. -/
  | begin (work : String)
  | insert (work : String) (record : EventRecord)
  /-- The records that are staged in a unit of work. -/
  | staged (work : String)
  | commit (work : String)
  | rollback (work : String)
  | enqueue (work : String) (request : EnqueueRequest)
  /-- The record under an identifier. -/
  | look (event : Identifier)
  /-- The number of records. -/
  | size
  /-- The statistics and the age of the oldest pending record. -/
  | age (now : Timestamp)
  | setAvailable (available : Bool)
  | planFault (operation : StoreOperation) (plan : Option FaultPlan)
  /-- The number of calls of each operation. -/
  | callCounts
  | lead (leads : Bool)
  | failFor (event : Identifier)
  | recover (event : Identifier)
  | setLatency (latency : Option Duration)
  | setOutage (outage : Option BrokerError)
  /-- The envelopes that the broker accepted. -/
  | published
  | countFor (event : Identifier)
  | push (envelope : Envelope)
  | send (envelope : Envelope)
  /-- The retry policy and the name of the producer. -/
  | setup
  | dispatch (now : Timestamp)
  /-- Delete expired records, under the usual window unless another one is given. -/
  | retain (window : Option Int) (now : Timestamp)
  /-- Refresh the reference data from an answer of its source. -/
  | refresh (answer : SourceAnswer)
  /-- An operator asks for something. -/
  | operator (method address : String)
  /-- Let the regular jobs run for some milliseconds. -/
  | loops (millis : Nat)
  | ensureSchema
  | loadCategories
  | refreshCategories
  /-- Close the database. -/
  | close

/-- What comes of a step. -/
inductive Answer
  | done
  /-- The step makes no sense in its place. -/
  | refused
  /-- There is no such unit of work, or no reference data yet. -/
  | absent
  | called (call : StoreCall) (outcome : Except StoreError call.Answer)
  | inserted (outcome : Except StoreError Identifier)
  | staged (records : List EventRecord)
  | committed (outcome : Except StoreError (List EventRecord))
  | finished (outcome : Except Database.Failure Unit)
  | enqueued (outcome : Except EnqueueError EventRecord)
  | found (record : Option EventRecord)
  | size (count : Nat)
  | aged (outcome : Except StoreError (Statistics × Option Int))
  | callCounts (counts : List (StoreOperation × Nat))
  | leads (isLeader : Bool)
  | published (envelopes : List Envelope)
  | counted (count : Nat)
  | pushed (outcome : Except PushError Unit)
  | sent (outcome : Except BrokerError Unit)
  | setup (policy : RetryPolicy) (producer : String)
  | dispatched (outcome : TickOutcome)
  | retained (outcome : RetentionOutcome) (window : Int)
  | refreshed (outcome : Except ReferenceError Nat)
  | loaded (answer : SourceAnswer)
  | responded (response : Relay.Response)
  | jobs (names : List String)
  | operated (outcome : Except StoreError Unit)

/-- Where the identifiers and the time of new records come from. -/
structure Supply where
  /-- The identifiers of new records, one after the other. -/
  identifier : Nat → Identifier
  now : Timestamp

end Outbox.Rehearsal
