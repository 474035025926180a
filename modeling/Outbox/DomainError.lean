/-!
# Refused operations

An operation of an aggregate is refused for its arguments or for the state that the aggregate is
in. In both cases the aggregate stays as it was.
-/

namespace Outbox

/-- Why an operation is refused. -/
inductive DomainError
  /-- The arguments are not acceptable in any state. -/
  | validation (reason : String)
  /-- The current state does not allow the operation. -/
  | conflict (reason : String)
  deriving DecidableEq, Repr

/-- The message of an error. -/
def DomainError.message : DomainError → String
  | .validation reason => "validation failed: " ++ reason
  | .conflict reason => "conflict: " ++ reason

/-- Whether the state is to blame. -/
def DomainError.isConflict : DomainError → Bool
  | .validation _ => false
  | .conflict _ => true

end Outbox
