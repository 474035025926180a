import Outbox.Record

/-!
# Failed store operations

Only a storage error means that the store itself cannot be reached. All other errors concern a
single record, and leave the rest of a delivery run alone once it has loaded its records.
-/

namespace Outbox

/-- Why a store operation fails. -/
inductive StoreError
  | notFound (event : Identifier)
  | illegalTransition (event : Identifier) (status next : EventStatus)
  | duplicate (event : Identifier)
  /-- A stored row does not hold a record. -/
  | corrupt (reason : String)
  /-- The store cannot be reached. -/
  | storage (reason : String)
  deriving DecidableEq

namespace StoreError

/-- The message of an error. -/
def message : StoreError → String
  | notFound event => "outbox record " ++ event.text ++ " not found"
  | illegalTransition event status next =>
    "illegal status transition for " ++ event.text ++ ": " ++ status.text ++ " -> " ++ next.text
  | duplicate event => "duplicate outbox record " ++ event.text
  | corrupt reason => "corrupt outbox row: " ++ reason
  | storage reason => "outbox storage error: " ++ reason

/-- Whether the store cannot be reached. -/
def isUnavailable : StoreError → Bool
  | storage _ => true
  | _ => false

end StoreError

end Outbox
