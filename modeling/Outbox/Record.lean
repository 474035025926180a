import Outbox.Calendar.Timestamp
import Outbox.DomainError
import Outbox.Identifier

/-!
# Outbox records

A record keeps what happened to an aggregate until it has been published: who did what, and the
aggregate's snapshot at that time. It starts pending and becomes sent. `EventRecord.transition` is
the only way in which a record changes.
-/

namespace Outbox

open Calendar Json

/-- The kinds of aggregates, which choose the handler of a record. -/
inductive AggregateType
  | product
  | supplier
  | agreement
  deriving DecidableEq, Repr, Inhabited

namespace AggregateType

/-- Every kind, in order. -/
def all : List AggregateType := [product, supplier, agreement]

/-- The place of a kind in this order. -/
def rank (kind : AggregateType) : Nat := all.idxOf kind

/-- The written form. -/
def text : AggregateType → String
  | product => "PRODUCT"
  | supplier => "SUPPLIER"
  | agreement => "AGREEMENT"

/-- The name in listings of the program's own state. -/
def title : AggregateType → String
  | product => "Product"
  | supplier => "Supplier"
  | agreement => "Agreement"

/-- The kinds with their written forms. -/
def known : List (String × AggregateType) :=
  all.map fun kind => (kind.text, kind)

/-- Reads a kind. -/
def parse (text : String) : Except DomainError AggregateType :=
  match lookUp? text known with
  | some kind => .ok kind
  | none => .error (.validation ("unknown aggregate type: " ++ text))

instance : Json.Codec AggregateType := .named text known

end AggregateType

/-- Whether a record has been published. -/
inductive EventStatus
  | pending
  | sent
  deriving DecidableEq, Repr, Inhabited

namespace EventStatus

/-- Every status. -/
def all : List EventStatus := [pending, sent]

/-- The written form. -/
def text : EventStatus → String
  | pending => "PENDING"
  | sent => "SENT"

/-- The states with their written forms. -/
def known : List (String × EventStatus) :=
  all.map fun status => (status.text, status)

/-- Reads a status. -/
def parse (text : String) : Except DomainError EventStatus :=
  match lookUp? text known with
  | some status => .ok status
  | none => .error (.validation ("unknown event status: " ++ text))

/-- Whether a record may go from one status to another: only from pending to sent. -/
def mayBecome (status next : EventStatus) : Bool :=
  status = .pending && next = .sent

instance : Json.Codec EventStatus := .named text known

end EventStatus

/-- JSON values by key that travel with an event. -/
abbrev Metadata := Dictionary Json

/-- A record of the outbox. -/
structure EventRecord where
  /-- Names the record, and lets receivers recognise a repeated message. -/
  id : Identifier
  aggregate : Identifier
  aggregateType : AggregateType
  status : EventStatus
  eventName : String
  byUser : Identifier
  extraMetadata : Metadata
  payload : Json
  created : Timestamp
  updated : Timestamp
  deriving Inhabited

namespace EventRecord

/-- The record in another status, from a moment on, if it may get there. -/
def transition (record : EventRecord) (next : EventStatus) (moment : Timestamp) :
    Except DomainError EventRecord :=
  if record.status.mayBecome next then .ok { record with status := next, updated := moment }
  else .error (.conflict ("illegal status transition " ++ record.status.text ++ " -> " ++
    next.text ++ " for event " ++ record.id.text))

/-- Whether a record comes before another one in the order of delivery: by the time of creation,
    and of records created at once by identifier. -/
def before (left right : EventRecord) : Bool :=
  left.created.before right.created || left.created = right.created && left.id < right.id

/-- A record as a JSON value. -/
def json (record : EventRecord) : Json :=
  .ofMembers [
    ("event_id", record.id.json),
    ("aggregate_id", record.aggregate.json),
    ("aggregate_type", .string record.aggregateType.text),
    ("status", .string record.status.text),
    ("event_name", .string record.eventName),
    ("by_user", record.byUser.json),
    ("extra_metadata", .object record.extraMetadata.entries),
    ("payload", record.payload),
    ("created", record.created.json),
    ("updated", record.updated.json)]

/-- The form of a stored record. -/
def layout : Layout where
  name := "EventRecord"
  fields := [
    .required "event_id" Identifier.decode,
    .required "aggregate_id" Identifier.decode,
    .required "aggregate_type" (decodeNamed AggregateType.known),
    .required "status" (decodeNamed EventStatus.known),
    .required "event_name" decodeString,
    .required "by_user" Identifier.decode,
    .required "extra_metadata" (decodeMap decodeJson),
    .required "payload" decodeJson,
    .required "created" Timestamp.decode,
    .required "updated" Timestamp.decode]

/-- A record from JSON. -/
def decode (source : Source) : Decoded EventRecord := do
  let fields ← layout.fieldsOf source
  return {
    id := ← fields.required "event_id" Identifier.decode
    aggregate := ← fields.required "aggregate_id" Identifier.decode
    aggregateType := ← fields.required "aggregate_type" (decodeNamed AggregateType.known)
    status := ← fields.required "status" (decodeNamed EventStatus.known)
    eventName := ← fields.required "event_name" decodeString
    byUser := ← fields.required "by_user" Identifier.decode
    extraMetadata := ← fields.required "extra_metadata" (decodeMap decodeJson)
    payload := ← fields.required "payload" decodeJson
    created := ← fields.required "created" Timestamp.decode
    updated := ← fields.required "updated" Timestamp.decode }

instance : Json.Codec EventRecord := ⟨json, decode⟩

end EventRecord

end Outbox
