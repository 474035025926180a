import Outbox.Dispatch.Run
import Outbox.Retention
import Outbox.Store.Faults

/-!
# A site in memory

A site is a store and a broker in memory, both of which can be made to fail, and the surroundings in
which dispatch and retention runs take place.
-/

namespace Outbox

open Calendar

/-- A store and a broker in memory with their injected faults. -/
structure Site where
  store : MemoryStore
  broker : MemoryBroker
  faults : Faults
  /-- The error of every push while there is no way to the broker. -/
  outage : Option BrokerError

/-- How a site sends: as whom, under which category names, and how long it waits. -/
structure Sending where
  sender : Sender
  names : CategoryNames
  patience : Duration

namespace Site

/-- The site that holds nothing and where nothing fails. -/
def empty : Site := ⟨.empty, .empty, .none, none⟩

/-- Pushes an envelope, unless there is no way to the broker. -/
def push (site : Site) (patience : Duration) (envelope : Envelope) : Except PushError Site :=
  match site.outage with
  | some error => .error (.broker error)
  | none => (site.broker.push patience envelope).map fun broker => { site with broker }

/-- Sends an envelope without a limit to the time, unless there is no way to the broker. -/
def send (site : Site) (envelope : Envelope) : Except BrokerError Site :=
  match site.outage with
  | some error => .error error
  | none => (site.broker.send envelope).map fun broker => { site with broker }

/-- Calls the store, unless a failure of the call is planned. -/
def call (site : Site) (call : StoreCall) : Except StoreError call.Answer × Site :=
  match site.faults.call call.operation with
  | (some error, faults) => (.error error, { site with faults })
  | (none, faults) =>
    let (answer, store) := site.store.call call
    (answer, { site with store, faults })

/-- The answers of a site to a dispatch run. -/
def answer (sending : Sending) (site : Site) : (request : Request) → request.Answer × Site
  | .loadPending => site.call (.findByStatus .pending)
  | .loadDeliveries => site.call .deliveryStates
  | .deliver record =>
    match sending.sender.envelope sending.names record with
    | .error error => (.error error, site)
    | .ok envelope =>
      match site.push sending.patience envelope with
      | .ok site => (.ok (), site)
      | .error error => (.error (.push error), site)
  | .markSent event moment => site.call (.updateStatus event .sent moment)
  | .clearDelivery event => site.call (.clearDelivery event)
  | .saveDelivery delivery => site.call (.saveDelivery delivery)

/-- A dispatch run at a site. -/
def dispatch (site : Site) (sending : Sending) (policy : RetryPolicy) (isLeader : Bool)
    (now : Timestamp) : TickOutcome × Site :=
  (Run.tick policy isLeader now).execute (answer sending) site

/-- A retention run at a site that keeps sent records for a span of nanoseconds. -/
def retainKeeping (site : Site) (isLeader : Bool) (span : Int) (now : Timestamp) :
    RetentionOutcome × Site :=
  Retention.tickKeeping (fun cutoff => site.call (.deleteWhere .sent cutoff)) site isLeader span now

/-- A retention run at a site with a window in seconds. -/
def retain (site : Site) (isLeader : Bool) (window : Int) (now : Timestamp) :
    RetentionOutcome × Site :=
  site.retainKeeping isLeader (window * nanosPerSecond) now

end Site

end Outbox
