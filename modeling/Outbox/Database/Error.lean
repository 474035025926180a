import Outbox.Store.Error
import Outbox.Text.Quoted

/-!
# Failures of the database

A statement may fail in the server, on the way to it, or when a row that came back is read. A store
operation reports such a failure under its own name: a row that cannot be read is corrupt, as is
one that violates a check; after any other failure the store counts as out of reach.
-/

namespace Outbox.Database

/-- Why a statement fails or a row is not read. -/
inductive Failure
  /-- The server refuses the statement, with the code of the error if it has one. -/
  | refused (code : Option String) (reason : String)
  | poolClosed
  | poolTimedOut
  | rowNotFound
  | workerCrashed
  | columnNotFound (column : String)
  | columnOutOfBounds (index width : Nat)
  /-- The column is given by its quoted name or by its position. -/
  | columnUnreadable (column reason : String)
  | typeNotFound (name : String)
  | unreadable (reason : String)
  | unwritable (reason : String)
  | transport (reason : String)
  | encryption (reason : String)
  | protocol (reason : String)
  | configuration (reason : String)
  deriving DecidableEq, Repr

namespace Failure

/-- The message of a failure. -/
def message : Failure → String
  | refused _ reason => "error returned from database: " ++ reason
  | poolClosed => "attempted to acquire a connection on a closed pool"
  | poolTimedOut => "pool timed out while waiting for an open connection"
  | rowNotFound => "no rows returned by a query that expected to return at least one row"
  | workerCrashed => "attempted to communicate with a crashed background worker"
  | columnNotFound column => "no column found for name: " ++ column
  | columnOutOfBounds index width =>
    "column index out of bounds: the len is " ++ toString width ++ ", but the index is " ++
      toString index
  | columnUnreadable column reason =>
    "error occurred while decoding column " ++ column ++ ": " ++ reason
  | typeNotFound name => "type named " ++ name ++ " not found"
  | unreadable reason => "error occurred while decoding: " ++ reason
  | unwritable reason => "error occurred while encoding a value: " ++ reason
  | transport reason => "error communicating with database: " ++ reason
  | encryption reason =>
    "error occurred while attempting to establish a TLS connection: " ++ reason
  | protocol reason => "encountered unexpected or invalid data: " ++ reason
  | configuration reason => "error with configuration: " ++ reason

/-- The code of a violated primary key. -/
def uniqueViolation : String := "23505"

/-- The code of a violated check. -/
def checkViolation : String := "23514"

/-- Whether a primary key was violated. -/
def isUniqueViolation : Failure → Bool
  | refused code _ => code = some uniqueViolation
  | _ => false

/-- The error of the store operation in which a failure happens. -/
def during (operation : String) (failure : Failure) : StoreError :=
  match failure with
  | refused code reason =>
    let reason := "database error in " ++ operation ++ ": " ++ reason
    if code = some checkViolation then .corrupt reason else .storage reason
  | poolClosed => .storage ("connection pool closed in " ++ operation)
  | columnNotFound _ | columnUnreadable _ _ | unreadable _ =>
    .corrupt (operation ++ ": " ++ failure.message)
  | _ => .storage ("sqlx error in " ++ operation ++ ": " ++ failure.message)

end Failure

end Outbox.Database
