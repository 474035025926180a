import Outbox.Store.Memory

/-!
# Calls of a store

Everything that a store can be asked to do, as data. Whatever keeps the records and deliveries
answers the same calls, so stores can be compared call by call.
-/

namespace Outbox

open Calendar

/-- The operations of a store. -/
inductive StoreOperation
  | save
  | findByStatus
  | updateStatus
  | deleteWhere
  | statistics
  | deliveryStates
  | saveDelivery
  | clearDelivery
  | parked
  | requeue
  deriving DecidableEq, Repr

namespace StoreOperation

/-- The name of an operation. -/
def text : StoreOperation → String
  | save => "save"
  | findByStatus => "find_by_status"
  | updateStatus => "update_status"
  | deleteWhere => "delete_where"
  | statistics => "stats"
  | deliveryStates => "delivery_states"
  | saveDelivery => "save_delivery_state"
  | clearDelivery => "clear_delivery_state"
  | parked => "parked"
  | requeue => "requeue"

/-- Every operation. -/
def all : List StoreOperation :=
  [save, findByStatus, updateStatus, deleteWhere, statistics, deliveryStates, saveDelivery,
    clearDelivery, parked, requeue]

/-- The operations by their names. -/
def known : List (String × StoreOperation) :=
  all.map fun operation => (operation.text, operation)

end StoreOperation

/-- A call of a store. -/
inductive StoreCall
  | save (record : EventRecord)
  | findByStatus (status : EventStatus)
  | updateStatus (event : Identifier) (status : EventStatus) (moment : Timestamp)
  | deleteWhere (status : EventStatus) (before : Timestamp)
  | statistics
  | deliveryStates
  | saveDelivery (delivery : Delivery)
  | clearDelivery (event : Identifier)
  | parked
  | requeue (event : Identifier) (now : Timestamp)

namespace StoreCall

/-- What a call is answered with when it does not fail. -/
@[reducible]
def Answer : StoreCall → Type
  | save _ => Unit
  | findByStatus _ => List EventRecord
  | updateStatus .. => Unit
  | deleteWhere .. => Nat
  | statistics => Statistics
  | deliveryStates => Table Delivery.event
  | saveDelivery _ => Unit
  | clearDelivery _ => Unit
  | parked => List Delivery
  | requeue .. => Bool

/-- The operation that a call is one of. -/
def operation : StoreCall → StoreOperation
  | save _ => .save
  | findByStatus _ => .findByStatus
  | updateStatus .. => .updateStatus
  | deleteWhere .. => .deleteWhere
  | statistics => .statistics
  | deliveryStates => .deliveryStates
  | saveDelivery _ => .saveDelivery
  | clearDelivery _ => .clearDelivery
  | parked => .parked
  | requeue .. => .requeue

end StoreCall

namespace MemoryStore

/-- The outcome of an operation that changes the store; one that fails leaves it as it was. -/
def changed {Value : Type} (store : MemoryStore) :
    Except StoreError (Value × MemoryStore) → Except StoreError Value × MemoryStore
  | .ok (value, next) => (.ok value, next)
  | .error error => (.error error, store)

/-- The outcome of an operation that only changes the store. -/
def written (store : MemoryStore) (outcome : Except StoreError MemoryStore) :
    Except StoreError Unit × MemoryStore :=
  store.changed (outcome.map fun next => ((), next))

/-- Answers a call. -/
def call (store : MemoryStore) : (call : StoreCall) → Except StoreError call.Answer × MemoryStore
  | .save record => store.written (store.save record)
  | .findByStatus status => (store.findByStatus status, store)
  | .updateStatus event status moment => store.written (store.updateStatus event status moment)
  | .deleteWhere status before => store.changed (store.deleteWhere status before)
  | .statistics => (store.statistics, store)
  | .deliveryStates => (store.deliveryStates, store)
  | .saveDelivery delivery => store.written (store.saveDelivery delivery)
  | .clearDelivery event => store.written (store.clearDelivery event)
  | .parked => (store.parked, store)
  | .requeue event now => store.changed (store.requeue event now)

end MemoryStore

end Outbox
