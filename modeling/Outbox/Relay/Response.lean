import Outbox.Json.Basic
import Outbox.Store.Error

/-!
# Responses to operators

The relay answers operators in JSON where there is something to say. A failed store operation has a
status and a word for its kind.
-/

namespace Outbox.Relay

/-- What a response carries. -/
inductive Body
  | empty
  | json (value : Json)
  /-- Some text for people. -/
  | text

/-- A response. -/
structure Response where
  status : Nat
  body : Body
  /-- The methods that the path takes, when it does not take the one that was used. -/
  allow : Option String

namespace Response

/-- A response with a status only. -/
def ofStatus (status : Nat) : Response := ⟨status, .empty, none⟩

/-- A response with a value. -/
def ofJson (status : Nat) (value : Json) : Response := ⟨status, .json value, none⟩

/-- A response that reports an error. -/
def error (status : Nat) (code message : String) : Response :=
  .ofJson status (.ofMembers [("error", .string code), ("message", .string message)])

/-- The response to a failed store operation. -/
def ofStoreError (error : StoreError) : Response :=
  match error with
  | .notFound event => .error 404 "not_found" (event.text ++ " not found")
  | .illegalTransition .. => .error 409 "conflict" error.message
  | .duplicate _ => .error 409 "duplicate" error.message
  | .corrupt reason => .error 500 "corrupt_record" reason
  | .storage reason => .error 503 "store_unavailable" reason

/-- The response to a request for the head only: everything but the body. -/
def withoutBody (response : Response) : Response :=
  match response.body with
  | .json _ => { response with body := .json .null }
  | _ => { response with body := .empty }

end Response

end Outbox.Relay
