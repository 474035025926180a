import Outbox.Database.Store
import Outbox.Proofs.Database.Effects
import Outbox.Proofs.Database.Server
import Outbox.Proofs.Store.Changes

/-!
# Calls of both stores

The store in a database and the store in memory answer the same calls. As long as the rows in the
tables are those of the records and deliveries in memory, a call gets the same answer from both, and
afterwards the rows are again those of what is in memory.

The server is anyone who executes the commands of the statements. The only condition on a call is
that what it stores fits the columns and violates no constraint.
-/

namespace Outbox.Database

open Calendar

/-! ## Conversations -/

section Conversations

variable {World Value : Type} {reply : World → Statement → Reply × World} {world : World}

/-- An operation goes on with the result of a statement that succeeds. -/
theorem hold_send {statement : Statement} {result : Result}
    (replied : (reply world statement).1 = .ok result) (operation : String)
    (next : Result → Operation Value) :
    (Operation.send operation statement >>= next).run.hold reply world =
      (next result).run.hold reply (reply world statement).2 := by
  change Conversation.hold reply (Conversation.andThen
    (.done ((reply world statement).1.mapError (Failure.during operation))) _) _ = _
  rw [replied]
  rfl

/-- An operation goes on from wherever an operation before it has left off, unless that one failed.
-/
theorem hold_bind {Next : Type} (first : Operation Value) (next : Value → Operation Next) :
    (first >>= next).run.hold reply world =
      match first.run.hold reply world with
      | (.ok value, after) => (next value).run.hold reply after
      | (.error error, after) => (.error error, after) := by
  change (Conversation.andThen first.run _).hold reply world = _
  rw [Conversation.hold_andThen]
  obtain ⟨outcome, after⟩ := first.run.hold reply world
  cases outcome <;> rfl

end Conversations

/-! ## The same rows -/

/-- The rows of the tables are those of the records and deliveries in memory. -/
structure Mirrors (content : Content) (store : MemoryStore) : Prop where
  events : (content .events).Perm (store.records.rows.map RecordRow.written)
  deliveries : (content .deliveries).Perm (store.deliveries.rows.map DeliveryRow.cells)

/-- Everything in memory fits the columns of its row and violates no check. -/
structure Storable (store : MemoryStore) : Prop where
  available : store.available = true
  records : ∀ record ∈ store.records.rows, record.eventName ≠ "" ∧ RecordRow.Fits record
  deliveries : ∀ delivery ∈ store.deliveries.rows, DeliveryRow.Fits delivery

namespace Mirrors

variable {content other : Content} {store : MemoryStore}

/-- Tables with the same rows in another order mirror the same store. -/
theorem of_same (same : other.Same content) (mirrors : Mirrors content store) :
    Mirrors other store :=
  ⟨(same .events).trans mirrors.events, (same .deliveries).trans mirrors.deliveries⟩

/-- There is a row with an identifier exactly when there is a record with it. -/
theorem known_iff (mirrors : Mirrors content store) (event : Identifier) :
    (∃ row ∈ content .events, (row.value "event_id").equals (.uuid event) = true) ↔
      store.records.contains event = true := by
  rw [← List.any_eq_true, mirrors.events.any_eq, List.any_map, Table.contains]
  simp [Function.comp_def]

/-- There is a row with an identifier exactly when a delivery is remembered under it. -/
theorem remembered_iff (mirrors : Mirrors content store) (event : Identifier) :
    (∃ row ∈ content .deliveries, (row.value "event_id").equals (.uuid event) = true) ↔
      store.deliveries.contains event = true := by
  rw [← List.any_eq_true, mirrors.deliveries.any_eq, List.any_map, Table.contains]
  simp [Function.comp_def]

/-- An effect on the records that removes none leaves the deliveries alone. -/
theorem of_applied_events {effect : Effect} {later : MemoryStore} (mirrors : Mirrors content store)
    (nothing : effect.removed = [])
    (events : effect.rows.Perm (later.records.rows.map RecordRow.written))
    (deliveries : later.deliveries = store.deliveries) :
    Mirrors (effect.applied content .events) later := by
  refine ⟨events, ?_⟩
  rw [Effect.applied_of_removed_nil nothing content (by decide), deliveries]
  exact mirrors.deliveries

/-- No effect on the deliveries reaches the records, to which nothing belongs. -/
theorem of_applied_deliveries {effect : Effect} {later : MemoryStore}
    (mirrors : Mirrors content store)
    (deliveries : effect.rows.Perm (later.deliveries.rows.map DeliveryRow.cells))
    (records : later.records = store.records) :
    Mirrors (effect.applied content .deliveries) later := by
  refine ⟨?_, deliveries⟩
  have all : effect.applied content .deliveries .events = content .events :=
    List.filter_eq_self.mpr fun _ _ => rfl
  rw [all, records]
  exact mirrors.events

end Mirrors

/-! ## Calls -/

/-- Whether two answers to a call are the same. What is remembered of deliveries is compared by
what is found under each identifier, as it has no order. -/
def SameAnswer : (call : StoreCall) → Except StoreError call.Answer →
    Except StoreError call.Answer → Prop
  | .deliveryStates, .ok left, .ok right => ∀ event, left.find? event = right.find? event
  | _, left, right => left = right

/-- The answers to all other calls are compared as they are. -/
theorem sameAnswer_iff (call : StoreCall) (ordered : call ≠ .deliveryStates)
    (left right : Except StoreError call.Answer) : SameAnswer call left right ↔ left = right := by
  cases call with
  | deliveryStates => exact absurd rfl ordered
  | _ => rfl

/-- A call of the store in a database: the answer, and what becomes of the server. -/
def serve {World : Type} (reply : World → Statement → Reply × World) (world : World)
    (call : StoreCall) : Except StoreError call.Answer × World :=
  (Database.call call).run.hold reply world

/-- Whether what a call stores fits the columns and violates no constraint. -/
def Permitted (store : MemoryStore) : StoreCall → Prop
  | .save record => record.eventName ≠ "" ∧ RecordRow.Fits record
  | .updateStatus _ _ moment => moment.InMicros
  | .deleteWhere _ before => before.InMicros
  | .saveDelivery delivery =>
    store.records.contains delivery.event = true ∧ DeliveryRow.Fits delivery
  | .requeue _ now => now.InMicros
  | _ => True

/-- Whether a call is permitted is decided by what it is to write and by the identifiers in the
store. -/
instance (store : MemoryStore) (call : StoreCall) : Decidable (Permitted store call) :=
  match call with
  | .save record => inferInstanceAs (Decidable (record.eventName ≠ "" ∧ RecordRow.Fits record))
  | .updateStatus _ _ moment => inferInstanceAs (Decidable moment.InMicros)
  | .deleteWhere _ before => inferInstanceAs (Decidable before.InMicros)
  | .saveDelivery delivery => inferInstanceAs (Decidable
      (store.records.contains delivery.event = true ∧ DeliveryRow.Fits delivery))
  | .requeue _ now => inferInstanceAs (Decidable now.InMicros)
  | .findByStatus _ | .statistics | .deliveryStates | .clearDelivery _ | .parked => .isTrue trivial

section Calls

variable {World : Type} {server : Server World} {content : World → Content}
variable {store : MemoryStore} {world : World}

/-- Both stores answer a call alike, and keep the same rows. -/
def Agrees (server : Server World) (content : World → Content) (store : MemoryStore)
    (world : World) (call : StoreCall) : Prop :=
  SameAnswer call (store.call call).1 (serve server.reply world call).1 ∧
    Mirrors (content (serve server.reply world call).2) (store.call call).2

/-- Every outcome of a call is the same answer as itself. -/
theorem SameAnswer.refl (call : StoreCall) (outcome : Except StoreError call.Answer) :
    SameAnswer call outcome outcome := by
  cases call with
  | deliveryStates =>
    cases outcome with
    | ok _ => exact fun _ => rfl
    | error _ => rfl
  | _ => rfl

/-- A call that sends one statement and answers with something of its result agrees with the memory
when the statement violates nothing, the memory gives this answer and the rows that are left are
those in memory. -/
theorem agrees_of_write (executes : server.Executes content) {call : StoreCall}
    {statement : Statement} {operation : String} {answer : Result → call.Answer}
    (sends : Database.call call = Operation.send operation statement >>= (pure <| answer ·))
    {parameters : List Datum} (sent : statement.parameters? = some parameters)
    {table : TableName} {effect : Effect}
    (does : statement.command.effect? (content world) parameters = some (table, effect))
    (allowed : ∀ violation, effect.violates (content world) table violation = false)
    {later : MemoryStore}
    (remembered : store.call call = (.ok (answer ⟨effect.affected, []⟩), later))
    (mirrors : Mirrors (effect.applied (content world) table) later) :
    Agrees server content store world call := by
  obtain ⟨replied, same⟩ := (executes world statement parameters sent).of_allowed does allowed
  have served : serve server.reply world call =
      (.ok (answer ⟨effect.affected, []⟩), (server.reply world statement).2) := by
    rw [serve, sends, hold_send replied]
    rfl
  rw [Agrees, served, remembered]
  exact ⟨.refl _ _, mirrors.of_same same⟩

end Calls

end Outbox.Database
