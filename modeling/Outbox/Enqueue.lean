import Outbox.Registry
import Outbox.Store.Memory

/-!
# Enqueuing

A business operation enqueues an event inside its own unit of work. The event becomes a pending
record with a snapshot of the aggregate; nothing else is written, and a refused event leaves the
unit of work as it was.
-/

namespace Outbox

open Calendar

/-- An event that is to be enqueued. -/
structure EnqueueRequest where
  aggregateType : AggregateType
  aggregate : Identifier
  byUser : Identifier
  eventName : String
  /-- The snapshot, or why there is none. -/
  payload : Except String Json
  extraMetadata : Metadata

/-- Why an event is not enqueued. -/
inductive EnqueueError
  | invalid (reason : String)
  | unknownAggregateType (kind : AggregateType)
  | serialization (reason : String)
  | store (error : StoreError)
  deriving DecidableEq

/-- The message of an error. -/
def EnqueueError.message : EnqueueError → String
  | .invalid reason => "invalid outbox event: " ++ reason
  | .unknownAggregateType kind => "no payload handler registered for " ++ kind.text
  | .serialization reason => "payload serialization failed: " ++ reason
  | .store error => error.message

namespace EnqueueRequest

/-- The pending record of an event, under a new identifier and from a moment on. -/
def record (request : EnqueueRequest) (registry : Registry) (id : Identifier) (now : Timestamp) :
    Except EnqueueError EventRecord :=
  if Text.isBlank request.eventName then .error (.invalid "event name cannot be empty")
  else if !registry.contains request.aggregateType then
    .error (.unknownAggregateType request.aggregateType)
  else
    match request.payload with
    | .error reason => .error (.serialization reason)
    | .ok payload => .ok {
        id
        aggregate := request.aggregate
        aggregateType := request.aggregateType
        status := .pending
        eventName := request.eventName
        byUser := request.byUser
        extraMetadata := request.extraMetadata
        payload
        created := now
        updated := now }

end EnqueueRequest

/-- Enqueues an event in a unit of work: the record and the unit of work afterwards. -/
def UnitOfWork.enqueue (work : UnitOfWork) (registry : Registry) (request : EnqueueRequest)
    (id : Identifier) (now : Timestamp) : Except EnqueueError (EventRecord × UnitOfWork) :=
  (request.record registry id now).map fun record => (record, work.insert record)

end Outbox
