import Outbox.Record

/-!
# Handlers

A handler turns the snapshot stored in a record into the message that receivers get, and names the
key by which messages are kept in order. A snapshot that a handler refuses is refused for good: the
same snapshot gives the same answer every time.
-/

namespace Outbox

open Json

/-- Why a handler refuses a snapshot. -/
inductive HandlerError
  /-- The snapshot does not have the form of its kind. -/
  | serialization (kind : AggregateType) (reason : String)
  /-- There is no message for the snapshot. -/
  | transform (kind : AggregateType) (reason : String)
  deriving DecidableEq, Repr

/-- The message of an error. -/
def HandlerError.message : HandlerError → String
  | .serialization kind reason =>
    "payload does not match the " ++ kind.text ++ " shape: " ++ reason
  | .transform kind reason => "wire transform failed for " ++ kind.text ++ ": " ++ reason

/-- What a handler makes of a snapshot. -/
structure Prepared where
  partitionKey : String
  payload : Json
  version : Nat

/-- What a handler made as a JSON value. -/
def Prepared.json (prepared : Prepared) : Json :=
  .ofMembers [
    ("partition_key", .string prepared.partitionKey),
    ("payload", prepared.payload),
    ("dto_version", .count prepared.version)]

/-- The names of categories by their codes, where they are known. -/
abbrev CategoryNames := String → Option String

/-- A handler for the records of one kind. -/
structure Handler where
  tag : AggregateType
  /-- Prepares the message for a stored snapshot under the category names of the moment. -/
  prepare : CategoryNames → Json → Except HandlerError Prepared

/-- The handler that reads a snapshot and then makes a key and a message of it. -/
def Handler.reading {Snapshot : Type} (tag : AggregateType) (version : Nat)
    (decode : Source → Decoded Snapshot)
    (convert : CategoryNames → Snapshot → Except HandlerError (String × Json)) : Handler where
  tag
  prepare names raw :=
    match decode (source raw) with
    | .error error => .error (.serialization tag error.message)
    | .ok snapshot =>
      match convert names snapshot with
      | .error error => .error error
      | .ok (partitionKey, payload) => .ok { partitionKey, payload, version }

end Outbox
