import Outbox.Database.Row

/-!
# Rows of records

A record is stored in a row with a column for each of its parts. The row names the kind of the
aggregate and the status in texts and keeps the metadata as a document, so it may hold what is no
record. A list of rows is read one by one: a row without a record is passed over, and only a
storage error fails the whole list.
-/

namespace Outbox.Database

open Calendar

/-- The columns of a row with a record. -/
structure RecordRow where
  event : Identifier
  aggregate : Identifier
  aggregateType : String
  status : String
  eventName : String
  byUser : Identifier
  extraMetadata : Json
  payload : Json
  created : Timestamp
  updated : Timestamp

namespace RecordRow

/-- The names of the columns. -/
def columns : List String :=
  ["event_id", "aggregate_id", "aggregate_type", "status", "event_name", "by_user",
    "extra_metadata", "payload", "created", "updated"]

/-- The row of a record. -/
def ofRecord (record : EventRecord) : RecordRow where
  event := record.id
  aggregate := record.aggregate
  aggregateType := record.aggregateType.text
  status := record.status.text
  eventName := record.eventName
  byUser := record.byUser
  extraMetadata := .object record.extraMetadata.entries
  payload := record.payload
  created := record.created
  updated := record.updated

/-- The values of the columns, in order. -/
def data (row : RecordRow) : List Datum :=
  [.uuid row.event, .uuid row.aggregate, .text row.aggregateType, .text row.status,
    .text row.eventName, .uuid row.byUser, .jsonb row.extraMetadata, .jsonb row.payload,
    .ofMoment row.created, .ofMoment row.updated]

/-- Reads a row, its columns in order. -/
def read (row : Row) : Except Failure RecordRow := do
  return {
    event := ← row.get .uuid "event_id"
    aggregate := ← row.get .uuid "aggregate_id"
    aggregateType := ← row.get .text "aggregate_type"
    status := ← row.get .text "status"
    eventName := ← row.get .text "event_name"
    byUser := ← row.get .uuid "by_user"
    extraMetadata := ← row.get .jsonb "extra_metadata"
    payload := ← row.get .jsonb "payload"
    created := ← row.get .timestamptz "created"
    updated := ← row.get .timestamptz "updated" }

/-- The error of a row in which a part of the record is no such thing. -/
def corrupt (row : RecordRow) (reason : String) : StoreError :=
  .corrupt (row.event.text ++ ": " ++ reason)

/-- The record in a row. -/
def record (row : RecordRow) : Except StoreError EventRecord := do
  let aggregateType ← (AggregateType.parse row.aggregateType).mapError fun error =>
    row.corrupt error.message
  let status ← (EventStatus.parse row.status).mapError fun error => row.corrupt error.message
  let extraMetadata ← (Json.decodeMap Json.decodeJson (Json.source row.extraMetadata)).mapError
    fun error => row.corrupt ("extra_metadata: " ++ error.message)
  return {
    id := row.event
    aggregate := row.aggregate
    aggregateType
    status
    eventName := row.eventName
    byUser := row.byUser
    extraMetadata
    payload := row.payload
    created := row.created
    updated := row.updated }

/-- The records in a list of rows, some of which were not read. -/
def records : List (Except StoreError RecordRow) → Except StoreError (List EventRecord)
  | [] => .ok []
  | .error error :: rest => if error.isUnavailable then .error error else records rest
  | .ok row :: rest =>
    match row.record with
    | .ok record => (records rest).map (record :: ·)
    | .error _ => records rest

end RecordRow

end Outbox.Database
