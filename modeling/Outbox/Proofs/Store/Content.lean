import Outbox.Proofs.Store.Changes

/-!
# Stores with the same content

Two stores may hold the same records and deliveries and list them in different orders, because they
came in differently. No call can tell such stores apart: the records of a status and the parked
deliveries are put in order first, everything else is looked up, counted or compared with all, and
what is left behind is again the same. What is remembered of all deliveries is answered as it is
listed, so there the answers hold the same deliveries and need not list them alike.
-/

namespace Outbox.MemoryStore

open Calendar

/-- Two stores hold the same records and the same deliveries, in whatever order. -/
structure SameContent (left right : MemoryStore) : Prop where
  records : left.records.rows.Perm right.records.rows
  deliveries : left.deliveries.rows.Perm right.deliveries.rows
  available : left.available = right.available

/-- The order of delivery does not depend on the order in which records with distinct identifiers
are listed. -/
theorem inOrder_eq_of_perm {left right : List EventRecord}
    (distinct : (left.map EventRecord.id).Nodup) (same : left.Perm right) :
    inOrder left = inOrder right :=
  inOrder_eq distinct ((inOrder_perm right).trans same.symm) (pairwise_inOrder right)

/-- The earliest of some moments does not depend on their order. -/
theorem earliest?_eq_of_perm {left right : List Timestamp} (same : left.Perm right) :
    earliest? left = earliest? right := by
  cases found : earliest? right with
  | none =>
    rw [earliest?_eq_none found] at same
    rw [same.eq_nil]
    rfl
  | some least =>
    obtain ⟨member, first⟩ := earliest?_spec found
    exact earliest?_eq_some (same.mem_iff.mpr member)
      fun moment inside => first moment (same.mem_iff.mp inside)

/-- While a store is unavailable every call fails alike and changes nothing. -/
theorem call_of_unavailable {store : MemoryStore} (unavailable : store.available = false)
    (call : StoreCall) : store.call call = (.error outage, store) := by
  cases call with
  | _ => simp [MemoryStore.call, written, changed, save, insertAll, findByStatus, updateStatus,
      deleteWhere, statistics, deliveryStates, saveDelivery, clearDelivery, parked, requeue,
      whenAvailable, unavailable, Except.map]

namespace SameContent

variable {left right : MemoryStore}

/-- Stores with the same content list the records of a status alike, since the order of delivery
leaves no choice. -/
theorem findByStatus (same : left.SameContent right) (status : EventStatus) :
    left.findByStatus status = right.findByStatus status := by
  have distinct : ((left.records.rows.filter fun record =>
      record.status = status).map EventRecord.id).Nodup :=
    left.records.distinct.sublist (List.filter_sublist.map EventRecord.id)
  rw [MemoryStore.findByStatus, MemoryStore.findByStatus, whenAvailable, whenAvailable,
    same.available, inOrder_eq_of_perm distinct (same.records.filter _)]

/-- Stores with the same content list their parked deliveries alike, since identifiers put them in
order. -/
theorem parked (same : left.SameContent right) : left.parked = right.parked := by
  have distinct : ((left.deliveries.rows.filter Delivery.parked).map Delivery.event).Nodup :=
    left.deliveries.distinct.sublist (List.filter_sublist.map Delivery.event)
  have sorted := List.mergeSort_perm (right.deliveries.rows.filter Delivery.parked)
    fun left right => left.event.number ≤ right.event.number
  have ordered := byIdentifier_eq distinct
    (sorted.trans (same.deliveries.filter Delivery.parked).symm)
    (pairwise_byIdentifier (right.deliveries.rows.filter Delivery.parked))
  rw [MemoryStore.parked, MemoryStore.parked, whenAvailable, whenAvailable, same.available, ordered]
  rfl

/-- Stores with the same content have the same statistics. The earliest of some moments does not
depend on their order. -/
theorem statistics (same : left.SameContent right) : left.statistics = right.statistics := by
  have pending := same.records.filter fun record => decide (record.status = .pending)
  have sent := same.records.filter fun record => decide (record.status = .sent)
  rw [MemoryStore.statistics, MemoryStore.statistics, whenAvailable, whenAvailable, same.available,
    pending.length_eq, sent.length_eq,
    earliest?_eq_of_perm (pending.map EventRecord.created)]

/-- A deletion forgets the deliveries of the same records in both stores. -/
theorem forgotten (same : left.SameContent right) (status : EventStatus) (before : Timestamp) :
    (fun delivery : Delivery => !(left.records.rows.filter (expired status before)).any
        fun record => record.id = delivery.event) =
      fun delivery => !(right.records.rows.filter (expired status before)).any
        fun record => record.id = delivery.event := by
  funext delivery
  rw [(same.records.filter (expired status before)).any_eq]

/-- Two stores with the same content answer every call alike and have the same content afterwards.
Only the table of all deliveries may be listed in another order. -/
theorem call (same : left.SameContent right) (call : StoreCall) :
    (call ≠ .deliveryStates → (left.call call).1 = (right.call call).1) ∧
      (left.call call).2.SameContent (right.call call).2 := by
  cases available : right.available with
  | false =>
    rw [call_of_unavailable (same.available.trans available), call_of_unavailable available]
    exact ⟨fun _ => rfl, same⟩
  | true =>
    have leftAvailable : left.available = true := same.available.trans available
    have records := Table.perm_iff_find?_eq.mp same.records
    have deliveries := Table.perm_iff_find?_eq.mp same.deliveries
    cases call with
    | save record =>
      simp only [MemoryStore.call, save, insertAll, whenAvailable, leftAvailable, available,
        if_true, Table.contains_eq_isSome, records]
      cases [record].find? fun record => (right.records.find? record.id).isSome with
      | some known => exact ⟨fun _ => rfl, same⟩
      | none => exact ⟨fun _ => rfl, Table.perm_putAll same.records _, same.deliveries, rfl⟩
    | findByStatus status => exact ⟨fun _ => same.findByStatus status, same⟩
    | updateStatus event status moment =>
      simp only [MemoryStore.call, updateStatus, whenAvailable, leftAvailable, available, if_true,
        records]
      cases right.records.find? event with
      | none => exact ⟨fun _ => rfl, same⟩
      | some record =>
        cases changed : record.transition status moment with
        | error _ =>
          simp only [changed]
          exact ⟨fun _ => rfl, same⟩
        | ok next =>
          simp only [changed]
          exact ⟨fun _ => rfl, Table.perm_put same.records _, same.deliveries, rfl⟩
    | deleteWhere status before =>
      have doomed := same.records.filter (expired status before)
      simp only [MemoryStore.call, deleteWhere_of_available leftAvailable,
        deleteWhere_of_available available, doomed.length_eq, same.forgotten]
      exact ⟨fun _ => rfl, same.records.filter _, same.deliveries.filter _, same.available⟩
    | statistics => exact ⟨fun _ => same.statistics, same⟩
    | deliveryStates => exact ⟨fun other => absurd rfl other, same⟩
    | saveDelivery delivery =>
      simp only [MemoryStore.call, saveDelivery, whenAvailable, leftAvailable, available, if_true]
      exact ⟨fun _ => rfl, same.records, Table.perm_put same.deliveries _, rfl⟩
    | clearDelivery event =>
      simp only [MemoryStore.call, clearDelivery, whenAvailable, leftAvailable, available, if_true]
      exact ⟨fun _ => rfl, same.records, same.deliveries.filter _, rfl⟩
    | parked => exact ⟨fun _ => same.parked, same⟩
    | requeue event now =>
      simp only [MemoryStore.call, requeue_of_available leftAvailable,
        requeue_of_available available, deliveries]
      cases (right.deliveries.find? event).filter Delivery.parked with
      | none => exact ⟨fun _ => rfl, same⟩
      | some delivery =>
        exact ⟨fun _ => rfl, same.records, Table.perm_put same.deliveries _, same.available⟩

end SameContent

end Outbox.MemoryStore
