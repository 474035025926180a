import Outbox.Database.Statement

/-!
# Conversations with the database

An operation on the database sends one statement after the other, each one depending on the replies
so far. It is a tree of statements; who replies to them is left open.
-/

namespace Outbox.Database

/-- What a statement brings back. -/
structure Result where
  /-- The number of the rows that the statement changed or found. -/
  affected : Nat
  rows : List Row

/-- The result of a statement without rows. -/
def Result.empty : Result := ⟨0, []⟩

/-- The reply to a statement. -/
abbrev Reply := Except Failure Result

/-- Statements and what is made of the replies. -/
inductive Conversation (Value : Type) : Type
  | done (value : Value)
  | ask (statement : Statement) (resume : Reply → Conversation Value)

namespace Conversation

/-- Goes on with what a conversation ends with. -/
def andThen {Value Next : Type} :
    Conversation Value → (Value → Conversation Next) → Conversation Next
  | done value, next => next value
  | ask statement resume, next => ask statement fun reply => (resume reply).andThen next

instance : Monad Conversation where
  pure := done
  bind := andThen

/-- Holds a conversation with somebody who replies to every statement and may change with it. -/
def hold {Value World : Type} (reply : World → Statement → Reply × World) :
    Conversation Value → World → Value × World
  | done value, world => (value, world)
  | ask statement resume, world =>
    let (answer, world) := reply world statement
    (resume answer).hold reply world

/-- Whoever replies to a conversation that goes on replies first to its start, and then to the rest
from wherever the start has left off. -/
theorem hold_andThen {Value Next World : Type} (reply : World → Statement → Reply × World)
    (conversation : Conversation Value) (next : Value → Conversation Next) (world : World) :
    (conversation.andThen next).hold reply world =
      (next (conversation.hold reply world).1).hold reply (conversation.hold reply world).2 := by
  induction conversation generalizing world with
  | done value => rfl
  | ask statement resume continues =>
    exact continues (reply world statement).1 (reply world statement).2

end Conversation

/-- An operation of the store, which may fail. -/
abbrev Operation (Value : Type) := ExceptT StoreError Conversation Value

/-- Sends a statement in an operation. -/
def Operation.send (operation : String) (statement : Statement) : Operation Result :=
  ExceptT.mk (.ask statement fun reply => .done (reply.mapError (Failure.during operation)))

/-- Reads what came back in an operation. -/
def Operation.reading {Value : Type} (operation : String) (outcome : Except Failure Value) :
    Operation Value :=
  ExceptT.mk (.done (outcome.mapError (Failure.during operation)))

end Outbox.Database
