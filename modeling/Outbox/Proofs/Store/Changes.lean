import Outbox.Proofs.Order
import Outbox.Proofs.Table
import Outbox.Store.Call

/-!
# What a call does to the records and deliveries

A call of the store either fails and leaves everything as it was, or has one known effect on the
records. `MemoryStore.RecordsAfter` lists these effects: a save puts a record under a new
identifier, a change of status turns one pending record into a sent one, a deletion removes the
expired records, and every other call keeps the records. No call does anything else, so a statement
about records needs one case for each effect and not one for each call.
`MemoryStore.DeliveriesAfter` does the same for what is remembered of deliveries.
-/

namespace Outbox

open Calendar

namespace MemoryStore

/-- An operation that needs an available store succeeds exactly when the store is available and the
operation itself succeeds. -/
theorem whenAvailable_ok_iff {Value : Type} (store : MemoryStore)
    (answer : Except StoreError Value) (value : Value) :
    store.whenAvailable answer = .ok value ↔ store.available = true ∧ answer = .ok value := by
  rw [whenAvailable]
  cases store.available <;> simp

/-- Records come in together only if none of them was there, and then all of them are put into the
store. -/
theorem insertAll_ok {store next : MemoryStore} {batch : List EventRecord}
    (inserted : store.insertAll batch = .ok next) :
    (∀ record ∈ batch, store.records.find? record.id = none) ∧
      next = { store with records := store.records.putAll batch } := by
  obtain ⟨_, inserted⟩ := (whenAvailable_ok_iff store _ next).mp inserted
  cases known : batch.find? fun record => store.records.contains record.id with
  | some record => simp [known] at inserted
  | none =>
    rw [known] at inserted
    refine ⟨?_, (Except.ok.inj inserted).symm⟩
    intro record member
    have absent : ¬ store.records.contains record.id = true :=
      List.find?_eq_none.mp known record member
    simpa [Table.contains_eq_isSome] using absent

/-- A status is changed only from pending to sent, in a record that is there. The record keeps
everything else, and no other record changes. -/
theorem updateStatus_ok {store next : MemoryStore} {event : Identifier} {status : EventStatus}
    {moment : Timestamp} (changed : store.updateStatus event status moment = .ok next) :
    ∃ record, store.records.find? event = some record ∧ record.status = .pending ∧
      status = .sent ∧ next = { store with
        records := store.records.put { record with status := .sent, updated := moment } } := by
  obtain ⟨_, changed⟩ := (whenAvailable_ok_iff store _ next).mp changed
  cases found : store.records.find? event with
  | none => simp [found] at changed
  | some record =>
    simp only [found, EventRecord.transition, EventStatus.mayBecome, Bool.and_eq_true,
      decide_eq_true_eq] at changed
    by_cases allowed : record.status = .pending ∧ status = .sent
    · rw [if_pos allowed] at changed
      obtain ⟨pending, sent⟩ := allowed
      subst sent
      exact ⟨record, rfl, pending, rfl, (Except.ok.inj changed).symm⟩
    · rw [if_neg allowed] at changed
      simp at changed

/-- The records of a status are exactly the stored ones that have it. -/
theorem mem_of_findByStatus {store : MemoryStore} {status : EventStatus}
    {records : List EventRecord} (answered : store.findByStatus status = .ok records)
    (record : EventRecord) :
    record ∈ records ↔ record ∈ store.records.rows ∧ record.status = status := by
  obtain ⟨_, answered⟩ := (whenAvailable_ok_iff store _ records).mp answered
  rw [← Except.ok.inj answered, mem_inOrder, List.mem_filter, decide_eq_true_eq]

/-- A deletion from an available store counts the records of the status that have not changed since
before the moment, removes them, and forgets their deliveries. -/
theorem deleteWhere_of_available {store : MemoryStore} (available : store.available = true)
    (status : EventStatus) (before : Timestamp) :
    store.deleteWhere status before =
      .ok ((store.records.rows.filter (expired status before)).length, { store with
        records := store.records.filter fun record => !expired status before record
        deliveries := store.deliveries.filter fun delivery =>
          !(store.records.rows.filter (expired status before)).any fun record =>
            record.id = delivery.event }) := by
  rw [deleteWhere, whenAvailable, if_pos available]

/-- A deletion removes the records of the status that have not changed since before the moment, and
forgets the deliveries of exactly these. -/
theorem deleteWhere_ok {store next : MemoryStore} {status : EventStatus} {before : Timestamp}
    {count : Nat} (deleted : store.deleteWhere status before = .ok (count, next)) :
    count = (store.records.rows.filter (expired status before)).length ∧ next = { store with
      records := store.records.filter fun record => !expired status before record
      deliveries := store.deliveries.filter fun delivery =>
        !(store.records.rows.filter (expired status before)).any fun record =>
          record.id = delivery.event } := by
  obtain ⟨available, _⟩ := (whenAvailable_ok_iff store _ _).mp deleted
  rw [deleteWhere_of_available available] at deleted
  obtain ⟨rfl, rfl⟩ := Prod.mk.inj (Except.ok.inj deleted)
  exact ⟨rfl, rfl⟩

/-- Where an operation changes the store, its outcome is either a failure and the store as it was,
or the value and the store of its success. -/
theorem changed_cases {Value : Type} (store : MemoryStore)
    (outcome : Except StoreError (Value × MemoryStore)) :
    (∃ error, outcome = .error error ∧ store.changed outcome = (.error error, store)) ∨
      ∃ value next, outcome = .ok (value, next) ∧ store.changed outcome = (.ok value, next) := by
  cases outcome with
  | error error => exact Or.inl ⟨error, rfl, rfl⟩
  | ok pair => exact Or.inr ⟨pair.1, pair.2, rfl, rfl⟩

/-- An operation that only writes either fails and leaves the store as it was, or succeeds with the
store that it wrote. -/
theorem written_cases (store : MemoryStore) (outcome : Except StoreError MemoryStore) :
    (∃ error, outcome = .error error ∧ store.written outcome = (.error error, store)) ∨
      ∃ next, outcome = .ok next ∧ store.written outcome = (.ok (), next) := by
  cases outcome with
  | error error => exact Or.inl ⟨error, rfl, rfl⟩
  | ok next => exact Or.inr ⟨next, rfl, rfl⟩

/-- A write that needs nothing but an available store leaves what it wrote, if it is accepted. -/
theorem written_of_accepted {store next : MemoryStore}
    (accepted : (store.written (store.whenAvailable (.ok next))).1 = .ok ()) :
    (store.written (store.whenAvailable (.ok next))).2 = next := by
  rcases store.written_cases (store.whenAvailable (.ok next)) with
    ⟨error, _, unchanged⟩ | ⟨other, wrote, written⟩
  · rw [unchanged] at accepted
    cases accepted
  · rw [written, Except.ok.inj ((store.whenAvailable_ok_iff _ other).mp wrote).2]

/-- A call that fails leaves the store as it was. An operation that fails has no store afterwards,
so there is nothing else to be left. -/
theorem call_refused {store : MemoryStore} {call : StoreCall} {error : StoreError}
    (refused : (store.call call).1 = .error error) : (store.call call).2 = store := by
  have of_changed {Value : Type} {outcome : Except StoreError (Value × MemoryStore)}
      (failed : (store.changed outcome).1 = .error error) : (store.changed outcome).2 = store := by
    rcases changed_cases store outcome with ⟨_, _, unchanged⟩ | ⟨_, _, _, changed⟩
    · rw [unchanged]
    · rw [changed] at failed
      cases failed
  cases call with
  | save record => exact of_changed refused
  | updateStatus event status moment => exact of_changed refused
  | deleteWhere status before => exact of_changed refused
  | saveDelivery delivery => exact of_changed refused
  | clearDelivery event => exact of_changed refused
  | requeue event now => exact of_changed refused
  | _ => rfl

/-- No call makes the store available or unavailable. Only a disturbance from outside does. -/
theorem available_call (store : MemoryStore) (call : StoreCall) :
    (store.call call).2.available = store.available := by
  cases call with
  | save record =>
    rcases written_cases store (store.save record) with
      ⟨error, _, unchanged⟩ | ⟨next, saved, written⟩
    · rw [MemoryStore.call, unchanged]
    · obtain ⟨_, rfl⟩ := insertAll_ok saved
      rw [MemoryStore.call, written]
  | updateStatus event status moment =>
    rcases written_cases store (store.updateStatus event status moment) with
      ⟨error, _, unchanged⟩ | ⟨next, updated, written⟩
    · rw [MemoryStore.call, unchanged]
    · obtain ⟨_, _, _, _, rfl⟩ := updateStatus_ok updated
      rw [MemoryStore.call, written]
  | deleteWhere status before =>
    rcases changed_cases store (store.deleteWhere status before) with
      ⟨error, _, unchanged⟩ | ⟨count, next, deleted, changed⟩
    · rw [MemoryStore.call, unchanged]
    · obtain ⟨_, rfl⟩ := deleteWhere_ok deleted
      rw [MemoryStore.call, changed]
  | saveDelivery delivery =>
    rw [MemoryStore.call, saveDelivery, whenAvailable]
    split <;> rfl
  | clearDelivery event =>
    rw [MemoryStore.call, clearDelivery, whenAvailable]
    split <;> rfl
  | requeue event now =>
    rw [MemoryStore.call, requeue, whenAvailable]
    split
    · cases (store.deliveries.find? event).filter Delivery.parked <;> rfl
    · rfl
  | findByStatus status => rfl
  | statistics => rfl
  | deliveryStates => rfl
  | parked => rfl

/-- The effects that a call can have on the records of a store. -/
inductive RecordsAfter (records : Table EventRecord.id) :
    StoreCall → Table EventRecord.id → Prop
  | kept (call : StoreCall) : RecordsAfter records call records
  | saved (record : EventRecord) (fresh : records.find? record.id = none) :
      RecordsAfter records (.save record) (records.put record)
  | published (event : Identifier) (moment : Timestamp) (record : EventRecord)
      (found : records.find? event = some record) (pending : record.status = .pending) :
      RecordsAfter records (.updateStatus event .sent moment)
        (records.put { record with status := .sent, updated := moment })
  | deleted (status : EventStatus) (before : Timestamp) :
      RecordsAfter records (.deleteWhere status before)
        (records.filter fun record => !expired status before record)

/-- Whether a call concerns something else than the records, or only looks at them. -/
def keepsRecords : StoreCall → Bool
  | .save _ | .updateStatus .. | .deleteWhere .. => false
  | _ => true

/-- A call that keeps the records has no other effect on them. -/
theorem RecordsAfter.eq_of_keeps {records after : Table EventRecord.id} {call : StoreCall}
    (effect : RecordsAfter records call after) (keeps : keepsRecords call = true) :
    after = records := by
  cases effect with
  | kept _ => rfl
  | saved _ _ => simp [keepsRecords] at keeps
  | published _ _ _ _ _ => simp [keepsRecords] at keeps
  | deleted _ _ => simp [keepsRecords] at keeps

/-- Every call has one of the listed effects. There is one case for each call, and later proofs are
about these four effects instead. -/
theorem records_call (store : MemoryStore) (call : StoreCall) :
    RecordsAfter store.records call (store.call call).2.records := by
  cases call with
  | save record =>
    rcases written_cases store (store.save record) with
      ⟨error, _, unchanged⟩ | ⟨next, saved, written⟩
    · rw [MemoryStore.call, unchanged]
      exact .kept _
    · obtain ⟨fresh, rfl⟩ := insertAll_ok saved
      rw [MemoryStore.call, written]
      exact .saved record (fresh record List.mem_cons_self)
  | updateStatus event status moment =>
    rcases written_cases store (store.updateStatus event status moment) with
      ⟨error, _, unchanged⟩ | ⟨next, updated, written⟩
    · rw [MemoryStore.call, unchanged]
      exact .kept _
    · obtain ⟨record, found, pending, rfl, rfl⟩ := updateStatus_ok updated
      rw [MemoryStore.call, written]
      exact .published event moment record found pending
  | deleteWhere status before =>
    rcases changed_cases store (store.deleteWhere status before) with
      ⟨error, _, unchanged⟩ | ⟨count, next, deleted, changed⟩
    · rw [MemoryStore.call, unchanged]
      exact .kept _
    · obtain ⟨_, rfl⟩ := deleteWhere_ok deleted
      rw [MemoryStore.call, changed]
      exact .deleted status before
  | saveDelivery delivery =>
    rw [MemoryStore.call, saveDelivery, whenAvailable]
    cases store.available <;> exact .kept _
  | clearDelivery event =>
    rw [MemoryStore.call, clearDelivery, whenAvailable]
    cases store.available <;> exact .kept _
  | requeue event now =>
    rw [MemoryStore.call, requeue, whenAvailable]
    cases store.available with
    | false => exact .kept _
    | true => cases (store.deliveries.find? event).filter Delivery.parked <;> exact .kept _
  | findByStatus status => exact .kept _
  | statistics => exact .kept _
  | deliveryStates => exact .kept _
  | parked => exact .kept _

/-! ## What is remembered of deliveries -/

/-- The effects that a call can have on what is remembered of deliveries. -/
inductive DeliveriesAfter (store : MemoryStore) : StoreCall → Table Delivery.event → Prop
  | kept (call : StoreCall) : DeliveriesAfter store call store.deliveries
  | remembered (delivery : Delivery) :
      DeliveriesAfter store (.saveDelivery delivery) (store.deliveries.put delivery)
  | forgotten (event : Identifier) :
      DeliveriesAfter store (.clearDelivery event) (store.deliveries.erase event)
  | requeued (event : Identifier) (now : Timestamp) (delivery : Delivery)
      (found : store.deliveries.find? event = some delivery) (parked : delivery.parked = true) :
      DeliveriesAfter store (.requeue event now) (store.deliveries.put (delivery.requeued now))
  | deleted (status : EventStatus) (before : Timestamp) :
      DeliveriesAfter store (.deleteWhere status before)
        (store.deliveries.filter fun delivery =>
          !(store.records.rows.filter (expired status before)).any fun record =>
            record.id = delivery.event)

/-- A requeue of an available store says whether the record was parked, and lets it be tried again
if it was. -/
theorem requeue_of_available {store : MemoryStore} (available : store.available = true)
    (event : Identifier) (now : Timestamp) :
    store.requeue event now =
      match (store.deliveries.find? event).filter Delivery.parked with
      | some delivery =>
        .ok (true, { store with deliveries := store.deliveries.put (delivery.requeued now) })
      | none => .ok (false, store) := by
  cases known : (store.deliveries.find? event).filter Delivery.parked with
  | none => simp [requeue, whenAvailable, available, known]
  | some delivery => simp [requeue, whenAvailable, available, known]

/-- Every call has one of the listed effects on deliveries, which are found by going through the
calls once. -/
theorem deliveries_call (store : MemoryStore) (call : StoreCall) :
    DeliveriesAfter store call (store.call call).2.deliveries := by
  cases call with
  | save record =>
    rcases written_cases store (store.save record) with
      ⟨error, _, unchanged⟩ | ⟨next, saved, written⟩
    · rw [MemoryStore.call, unchanged]
      exact .kept _
    · obtain ⟨_, rfl⟩ := insertAll_ok saved
      rw [MemoryStore.call, written]
      exact .kept _
  | updateStatus event status moment =>
    rcases written_cases store (store.updateStatus event status moment) with
      ⟨error, _, unchanged⟩ | ⟨next, updated, written⟩
    · rw [MemoryStore.call, unchanged]
      exact .kept _
    · obtain ⟨record, _, _, _, rfl⟩ := updateStatus_ok updated
      rw [MemoryStore.call, written]
      exact .kept _
  | deleteWhere status before =>
    rcases changed_cases store (store.deleteWhere status before) with
      ⟨error, _, unchanged⟩ | ⟨count, next, deleted, changed⟩
    · rw [MemoryStore.call, unchanged]
      exact .kept _
    · obtain ⟨_, rfl⟩ := deleteWhere_ok deleted
      rw [MemoryStore.call, changed]
      exact .deleted status before
  | saveDelivery delivery =>
    rw [MemoryStore.call, saveDelivery, whenAvailable]
    cases store.available with
    | false => exact .kept _
    | true => exact .remembered delivery
  | clearDelivery event =>
    rw [MemoryStore.call, clearDelivery, whenAvailable]
    cases store.available with
    | false => exact .kept _
    | true => exact .forgotten event
  | requeue event now =>
    rw [MemoryStore.call]
    cases available : store.available with
    | false =>
      rw [requeue, whenAvailable, if_neg (by simp [available])]
      exact .kept _
    | true =>
      rw [requeue_of_available available]
      cases known : (store.deliveries.find? event).filter Delivery.parked with
      | none => exact .kept _
      | some delivery =>
        obtain ⟨found, parked⟩ := Option.filter_eq_some_iff.mp known
        exact .requeued event now delivery found parked
  | findByStatus status => exact .kept _
  | statistics => exact .kept _
  | deliveryStates => exact .kept _
  | parked => exact .kept _

/-- The effects that a call can have on what is remembered under one identifier. -/
inductive DeliveryAfter (store : MemoryStore) (event : Identifier) :
    StoreCall → Option Delivery → Prop
  | kept (call : StoreCall) : DeliveryAfter store event call (store.deliveries.find? event)
  | remembered (delivery : Delivery) (named : delivery.event = event) :
      DeliveryAfter store event (.saveDelivery delivery) (some delivery)
  | forgotten : DeliveryAfter store event (.clearDelivery event) none
  | requeued (now : Timestamp) (delivery : Delivery)
      (found : store.deliveries.find? event = some delivery) (parked : delivery.parked = true) :
      DeliveryAfter store event (.requeue event now) (some (delivery.requeued now))
  | deleted (status : EventStatus) (before : Timestamp) (record : EventRecord)
      (stored : store.records.find? event = some record)
      (doomed : expired status before record = true) :
      DeliveryAfter store event (.deleteWhere status before) none

/-- Whether a call concerns something else than deliveries, or only looks at them. -/
def keepsDeliveries : StoreCall → Bool
  | .saveDelivery _ | .clearDelivery _ | .requeue .. | .deleteWhere .. => false
  | _ => true

/-- A call that keeps the deliveries has no other effect on them. -/
theorem DeliveryAfter.eq_of_keeps {store : MemoryStore} {event : Identifier} {call : StoreCall}
    {after : Option Delivery} (effect : DeliveryAfter store event call after)
    (keeps : keepsDeliveries call = true) : after = store.deliveries.find? event := by
  cases effect with
  | kept _ => rfl
  | remembered _ _ => simp [keepsDeliveries] at keeps
  | forgotten => simp [keepsDeliveries] at keeps
  | requeued _ _ _ _ => simp [keepsDeliveries] at keeps
  | deleted _ _ _ _ _ => simp [keepsDeliveries] at keeps

/-- An effect on deliveries is one of these effects under each identifier. What is kept of the other
identifiers is part of each case. -/
theorem DeliveriesAfter.find? {store : MemoryStore} {call : StoreCall}
    {after : Table Delivery.event} (effect : DeliveriesAfter store call after)
    (event : Identifier) : DeliveryAfter store event call (after.find? event) := by
  cases effect with
  | kept _ => exact .kept call
  | remembered delivery =>
    rw [Table.find?_put]
    split
    · next same => exact .remembered delivery same.symm
    · exact .kept _
  | forgotten subject =>
    rw [Table.find?_erase]
    split
    · next same =>
      subst same
      exact .forgotten
    · exact .kept _
  | requeued subject now delivery found parked =>
    have named : delivery.event = subject := Table.key_of_find? found
    have stillNamed : (delivery.requeued now).event = subject := named
    rw [Table.find?_put, stillNamed]
    split
    · next same =>
      subst same
      exact .requeued now delivery found parked
    · exact .kept _
  | deleted status before =>
    rw [Table.find?_filter]
    cases remembered : store.deliveries.find? event with
    | none =>
      rw [Option.filter_none, ← remembered]
      exact .kept _
    | some delivery =>
      have named : delivery.event = event := Table.key_of_find? remembered
      rw [Option.filter_some, named]
      split
      · rw [← remembered]
        exact .kept _
      · next removed =>
        obtain ⟨record, inside, doomed, same⟩ : ∃ record ∈ store.records.rows,
            expired status before record = true ∧ record.id = event := by simpa using removed
        exact .deleted status before record (same ▸ Table.find?_of_mem inside) doomed

end MemoryStore

end Outbox
