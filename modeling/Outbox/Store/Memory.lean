import Outbox.Delivery
import Outbox.Statistics
import Outbox.Store.Error
import Outbox.Table

/-!
# The store in memory

The store keeps records and what is remembered of their deliveries. Every operation answers with a
value and the store afterwards, or fails; a failed operation has no store afterwards and so changes
nothing. While the store is unavailable every operation fails.
-/

namespace Outbox

open Calendar

/-- Records and deliveries in memory. -/
structure MemoryStore where
  records : Table EventRecord.id
  deliveries : Table Delivery.event
  available : Bool

namespace MemoryStore

/-- The store that holds nothing. -/
def empty : MemoryStore := ⟨.empty, .empty, true⟩

instance : Inhabited MemoryStore := ⟨empty⟩

/-- The error of every operation on an unavailable store. -/
def outage : StoreError := .storage "in-memory outbox marked unavailable"

/-- An operation that is possible only while the store is available. -/
def whenAvailable {Value : Type} (store : MemoryStore) (answer : Except StoreError Value) :
    Except StoreError Value :=
  if store.available then answer else .error outage

/-- Records in the order of delivery. -/
def inOrder (records : List EventRecord) : List EventRecord :=
  records.mergeSort fun left right => !right.before left

/-- Adds records together, or none of them when one is there already. -/
def insertAll (store : MemoryStore) (batch : List EventRecord) : Except StoreError MemoryStore :=
  store.whenAvailable <|
    match batch.find? fun record => store.records.contains record.id with
    | some record => .error (.duplicate record.id)
    | none => .ok { store with records := store.records.putAll batch }

/-- Adds a record. -/
def save (store : MemoryStore) (record : EventRecord) : Except StoreError MemoryStore :=
  store.insertAll [record]

/-- The records of a status in the order of delivery. -/
def findByStatus (store : MemoryStore) (status : EventStatus) :
    Except StoreError (List EventRecord) :=
  store.whenAvailable <|
    .ok (inOrder (store.records.rows.filter fun record => record.status = status))

/-- Brings a record into another status. -/
def updateStatus (store : MemoryStore) (event : Identifier) (status : EventStatus)
    (moment : Timestamp) : Except StoreError MemoryStore :=
  store.whenAvailable <|
    match store.records.find? event with
    | none => .error (.notFound event)
    | some record =>
      match record.transition status moment with
      | .error _ => .error (.illegalTransition event record.status status)
      | .ok record => .ok { store with records := store.records.put record }

/-- Whether a record of a status has not changed since before a moment. -/
def expired (status : EventStatus) (before : Timestamp) (record : EventRecord) : Bool :=
  record.status = status && record.updated.before before

/-- Deletes the records of a status that have not changed since before a moment, with their
    deliveries, and counts them. -/
def deleteWhere (store : MemoryStore) (status : EventStatus) (before : Timestamp) :
    Except StoreError (Nat × MemoryStore) :=
  let doomed := store.records.rows.filter (expired status before)
  store.whenAvailable <|
    .ok (doomed.length, { store with
      records := store.records.filter fun record => !expired status before record
      deliveries := store.deliveries.filter fun delivery =>
        !doomed.any fun record => record.id = delivery.event })

/-- The earlier one of two moments. -/
def earlier (left right : Timestamp) : Timestamp :=
  if right.before left then right else left

/-- The earliest of some moments. -/
def earliest? : List Timestamp → Option Timestamp
  | [] => none
  | first :: rest => some (rest.foldl earlier first)

/-- How many records there are of each status, and the creation of the oldest pending one. -/
def statistics (store : MemoryStore) : Except StoreError Statistics :=
  let pending := store.records.rows.filter fun record => record.status = .pending
  let sent := store.records.rows.filter fun record => record.status = .sent
  store.whenAvailable <|
    .ok ⟨pending.length, sent.length, earliest? (pending.map EventRecord.created)⟩

/-- What is remembered of all deliveries. -/
def deliveryStates (store : MemoryStore) : Except StoreError (Table Delivery.event) :=
  store.whenAvailable (.ok store.deliveries)

/-- Remembers a delivery. -/
def saveDelivery (store : MemoryStore) (delivery : Delivery) : Except StoreError MemoryStore :=
  store.whenAvailable (.ok { store with deliveries := store.deliveries.put delivery })

/-- Forgets the delivery of a record. -/
def clearDelivery (store : MemoryStore) (event : Identifier) : Except StoreError MemoryStore :=
  store.whenAvailable (.ok { store with deliveries := store.deliveries.erase event })

/-- Deliveries by ascending identifier. -/
def byIdentifier (deliveries : List Delivery) : List Delivery :=
  deliveries.mergeSort fun left right => left.event.number ≤ right.event.number

/-- The parked deliveries by ascending identifier. -/
def parked (store : MemoryStore) : Except StoreError (List Delivery) :=
  store.whenAvailable (.ok (byIdentifier (store.deliveries.rows.filter Delivery.parked)))

/-- Lets a parked record be tried again from a moment on; says whether it was parked. -/
def requeue (store : MemoryStore) (event : Identifier) (now : Timestamp) :
    Except StoreError (Bool × MemoryStore) :=
  store.whenAvailable <|
    match (store.deliveries.find? event).filter Delivery.parked with
    | some delivery =>
      .ok (true, { store with deliveries := store.deliveries.put (delivery.requeued now) })
    | none => .ok (false, store)

end MemoryStore

/-- A unit of work: the records that a business operation wants to store together with its own
    changes. They are in the store after `commit` and nowhere else before. -/
structure UnitOfWork where
  staged : List EventRecord

namespace UnitOfWork

/-- A unit of work that has staged nothing yet. -/
def begin : UnitOfWork := ⟨[]⟩

/-- Stages a record. -/
def insert (work : UnitOfWork) (record : EventRecord) : UnitOfWork :=
  ⟨work.staged ++ [record]⟩

/-- Stores the staged records and answers with them. -/
def commit (work : UnitOfWork) (store : MemoryStore) :
    Except StoreError (List EventRecord × MemoryStore) :=
  (store.insertAll work.staged).map fun store => (work.staged, store)

end UnitOfWork

end Outbox
