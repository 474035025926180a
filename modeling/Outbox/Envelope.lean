import Outbox.Record

/-!
# Envelopes

An envelope is the message that receivers get for a record. Its metadata always name the producer
and the version of the message; a record's own metadata cannot change these two.
-/

namespace Outbox

open Json

/-- The key of the producer in the metadata. -/
def producerKey : String := "producerId"

/-- The key of the message version in the metadata. -/
def versionKey : String := "dtoVersion"

/-- Whether only the sender sets what is under a key of the metadata. -/
def isReserved (key : String) : Bool := key = producerKey || key = versionKey

/-- The metadata with another entry, which is dropped when its key is reserved. -/
def mergeEntry (merged : Metadata) (entry : String × Json) : Metadata :=
  if isReserved entry.1 then merged else merged.insert entry.1 entry.2

/-- The metadata of an envelope: the producer and the version, and then the entries of the
    record. -/
def mergeMetadata (producer : String) (version : Nat) (extra : Metadata) : Metadata :=
  extra.entries.foldl mergeEntry
    ((Dictionary.empty.insert producerKey (.string producer)).insert versionKey (.count version))

/-- A message on its way to the receivers. -/
structure Envelope where
  /-- Messages with one key reach their receivers in order. -/
  routingKey : String
  eventName : String
  payload : Json
  metadata : Metadata
  /-- The record that the message stands for. -/
  eventId : Identifier
  deriving Inhabited

namespace Envelope

/-- The producer named in the metadata, if it is a string. -/
def producer? (envelope : Envelope) : Option String :=
  match envelope.metadata.find? producerKey with
  | some (.string producer) => some producer
  | _ => none

/-- The members of an envelope in their written order. -/
def members (envelope : Envelope) : List (String × Json) :=
  [("routingKey", .string envelope.routingKey),
    ("eventName", .string envelope.eventName),
    ("payload", envelope.payload),
    ("metadata", .object envelope.metadata.entries),
    ("eventId", envelope.eventId.json)]

/-- An envelope as a JSON value. -/
def json (envelope : Envelope) : Json :=
  .ofMembers envelope.members

/-- The text of an envelope, whose members keep their order. -/
def text (envelope : Envelope) : String :=
  objectText (memberTexts envelope.members)

/-- The form of a written envelope. -/
def layout : Layout where
  name := "WireEnvelope"
  fields := [
    .required "routingKey" decodeString,
    .required "eventName" decodeString,
    .required "payload" decodeJson,
    .required "metadata" (decodeMap decodeJson),
    .required "eventId" Identifier.decode]

/-- An envelope from JSON. -/
def decode (source : Source) : Decoded Envelope := do
  let fields ← layout.fieldsOf source
  return {
    routingKey := ← fields.required "routingKey" decodeString
    eventName := ← fields.required "eventName" decodeString
    payload := ← fields.required "payload" decodeJson
    metadata := ← fields.required "metadata" (decodeMap decodeJson)
    eventId := ← fields.required "eventId" Identifier.decode }

instance : Json.Codec Envelope := ⟨json, decode⟩

end Envelope

end Outbox
