import Outbox.Proofs.Database.Calls
import Outbox.Proofs.Store.Changes

/-!
# Calls about deliveries

What is remembered of deliveries is listed, replaced, forgotten and requeued with the same answers
from a database as in memory. A row that is saved takes the place of the one that is in its way.
-/

namespace Outbox.Database

open Calendar

variable {World : Type} {server : Server World} {content : World → Content}
variable {store : MemoryStore} {world : World}

/-- The rows of deliveries that fit are read in their order. -/
theorem hold_readDeliveries {deliveries : List Delivery}
    (fits : ∀ delivery ∈ deliveries, DeliveryRow.Fits delivery) :
    (readDeliveries ((deliveries.map DeliveryRow.cells).map
      (Row.pick DeliveryRow.columns))).run.hold server.reply world = (.ok deliveries, world) := by
  have picked : (deliveries.map DeliveryRow.cells).map (Row.pick DeliveryRow.columns) =
      deliveries.map DeliveryRow.cells := by
    rw [List.map_map]
    exact List.map_congr_left fun delivery _ => DeliveryRow.pick_cells delivery
  rw [picked, readDeliveries, DeliveryRow.mapM_read_cells fits]
  rfl

/-- Both stores list what is remembered of all deliveries alike. The server may list the rows in any
order, and the table that is built of them has them all under their keys. -/
theorem deliveryStates_agrees (executes : server.Executes content) (storable : Storable store)
    (mirrors : Mirrors (content world) store) :
    Agrees server content store world .deliveryStates := by
  obtain ⟨affected, rows, listed, _, replied, same⟩ :=
    (executes world .deliveries _ rfl).of_select
  obtain ⟨deliveries, rfl, perm⟩ : Relation.Comp (· = List.map DeliveryRow.cells ·) List.Perm
      rows store.deliveries.rows := by
    rw [List.eq_map_comp_perm]
    exact (listed.trans (.of_eq (List.filter_eq_self.mpr fun _ _ => rfl))).trans mirrors.deliveries
  have fits : ∀ delivery ∈ deliveries, DeliveryRow.Fits delivery := fun delivery member =>
    storable.deliveries delivery (perm.mem_iff.mp member)
  have served : serve server.reply world .deliveryStates =
      (.ok (.ofList deliveries), (server.reply world .deliveries).2) := by
    rw [serve, Database.call, deliveryStates, hold_send replied, hold_bind,
      hold_readDeliveries fits]
    rfl
  have known : store.deliveryStates = .ok store.deliveries := by
    rw [MemoryStore.deliveryStates, MemoryStore.whenAvailable, if_pos storable.available]
  rw [Agrees, served, MemoryStore.call, known]
  refine ⟨fun event => ?_, mirrors.of_same same⟩
  have distinct : (deliveries.map Delivery.event).Nodup :=
    (perm.map Delivery.event).nodup_iff.mpr store.deliveries.distinct
  have listedRows : (Table.ofList deliveries : Table Delivery.event).rows = deliveries :=
    Table.rows_putAll distinct fun _ _ => rfl
  apply Option.ext
  intro delivery
  rw [Table.find?_eq_some_iff, Table.find?_eq_some_iff, listedRows, perm.mem_iff]

/-- Both stores list the parked deliveries alike, by their identifiers. The identifiers are
distinct, so the order leaves no choice to the server. -/
theorem parked_agrees (executes : server.Executes content) (storable : Storable store)
    (mirrors : Mirrors (content world) store) :
    Agrees server content store world .parked := by
  obtain ⟨affected, rows, listed, inTurn, replied, same⟩ :=
    (executes world .parkedDeliveries _ rfl).of_select
  obtain ⟨deliveries, rfl, perm⟩ : Relation.Comp (· = List.map DeliveryRow.cells ·) List.Perm
      rows (store.deliveries.rows.filter Delivery.parked) := by
    rw [List.eq_map_comp_perm]
    exact listed.trans (perm_filter mirrors.deliveries fun delivery _ =>
      DeliveryRow.chosen_parked delivery)
  have fits : ∀ delivery ∈ deliveries, DeliveryRow.Fits delivery := fun delivery member =>
    storable.deliveries delivery (List.mem_filter.mp (perm.mem_iff.mp member)).1
  have served : serve server.reply world .parked =
      (.ok deliveries, (server.reply world .parkedDeliveries).2) := by
    rw [serve, Database.call, parked, hold_send replied, hold_readDeliveries fits]
  have distinct : ((store.deliveries.rows.filter Delivery.parked).map Delivery.event).Nodup :=
    store.deliveries.distinct.sublist (List.filter_sublist.map Delivery.event)
  have ordered : deliveries.Pairwise fun left right => left.event.number ≤ right.event.number :=
    (List.pairwise_map.mp inTurn).imp DeliveryRow.number_le_of_upTo
  have known : store.parked = .ok deliveries := by
    rw [MemoryStore.parked, MemoryStore.whenAvailable, if_pos storable.available,
      MemoryStore.byIdentifier_eq distinct perm ordered]
  rw [Agrees, served, MemoryStore.call, known]
  exact ⟨rfl, mirrors.of_same same⟩

/-- A new row of a delivery violates nothing when its record is known and no other row is in the
way. -/
theorem addition_allowed (mirrors : Mirrors (content world) store) {delivery : Delivery}
    (stored : store.records.contains delivery.event = true)
    (free : store.deliveries.contains delivery.event = false) (violation : Violation) :
    (Effect.adding (content world .deliveries) (DeliveryRow.cells delivery)).violates
      (content world) .deliveries violation = false := by
  have founded : ∀ column ∈ TableName.deliveries.columns, ∀ reference ∈ column.reference,
      ∃ row ∈ content world reference.table, (row.value reference.column).equals
        ((DeliveryRow.cells delivery).value column.name) = true := by
    have known := (mirrors.known_iff delivery.event).mpr stored
    simpa [TableName.columns] using known
  rw [← Bool.not_eq_true, Effect.violates_adding (DeliveryRow.admits_cells delivery) founded,
    TableName.exists_key_iff (by decide) fun name => ∃ row ∈ content world .deliveries,
      (row.value name).equals ((DeliveryRow.cells delivery).value name) = true,
    DeliveryRow.value_event_id, mirrors.remembered_iff, free]
  simp

/-- Both stores come to remember a delivery of a stored record, in the place of what they remembered
of it before. The row of the record is there, so the foreign key is kept. -/
theorem saveDelivery_agrees (executes : server.Executes content) (storable : Storable store)
    (mirrors : Mirrors (content world) store) {delivery : Delivery}
    (stored : store.records.contains delivery.event = true) :
    Agrees server content store world (.saveDelivery delivery) := by
  have saved : store.saveDelivery delivery =
      .ok { store with deliveries := store.deliveries.put delivery } := by
    rw [MemoryStore.saveDelivery, MemoryStore.whenAvailable, if_pos storable.available]
  have inTheWay : (content world .deliveries).any (fun row =>
      (row.value "event_id").equals ((DeliveryRow.cells delivery).value "event_id")) =
        store.deliveries.contains delivery.event := by
    rw [Bool.eq_iff_iff, List.any_eq_true]
    exact mirrors.remembered_iff delivery.event
  cases known : store.deliveries.contains delivery.event with
  | true =>
    have does : (Statement.saveDelivery delivery).command.effect? (content world)
        (DeliveryRow.data delivery) =
          some (.deliveries, .changing (content world .deliveries) _ _) :=
      congrArg (fun effect => some (TableName.deliveries, effect)) (if_pos (inTheWay.trans known))
    have agrees (former : Delivery) (_ : former ∈ store.deliveries.rows) :
        ((DeliveryRow.cells former).value "event_id").equals
          ((DeliveryRow.cells delivery).value "event_id") =
            decide (former.event = delivery.event) := by
      simp
    have changed (former : Delivery) (same : decide (former.event = delivery.event) = true) :=
      DeliveryRow.assign_excluded (of_decide_eq_true same) (DeliveryRow.data delivery)
    refine agrees_of_write executes rfl rfl does ?_ (congrArg store.written saved)
      (mirrors.of_applied_deliveries ?_ rfl)
    · refine Effect.allowed_changing_things (by decide) (content world) mirrors.deliveries agrees
        changed (fun _ _ _ => DeliveryRow.admits_cells delivery) (fun former _ same => ?_)
      simpa using same
    · refine (perm_changing mirrors.deliveries agrees changed).trans (.of_eq ?_)
      simp only [decide_eq_true_eq]
      rw [Table.put, dif_pos known]
      rfl
  | false =>
    have does : (Statement.saveDelivery delivery).command.effect? (content world)
        (DeliveryRow.data delivery) =
          some (.deliveries, .adding (content world .deliveries) (DeliveryRow.cells delivery)) :=
      congrArg (fun effect => some (TableName.deliveries, effect))
        (if_neg (Bool.eq_false_iff.mp (inTheWay.trans known)))
    refine agrees_of_write executes rfl rfl does (addition_allowed mirrors stored known)
      (congrArg store.written saved) (mirrors.of_applied_deliveries ?_ rfl)
    rw [Table.put, dif_neg (by simp [known]), List.map_append]
    exact mirrors.deliveries.append (.refl _)

/-- Both stores forget what they remember of a record. A row that is not there is not missed. -/
theorem clearDelivery_agrees (executes : server.Executes content) (storable : Storable store)
    (mirrors : Mirrors (content world) store) (event : Identifier) :
    Agrees server content store world (.clearDelivery event) := by
  have cleared : store.clearDelivery event =
      .ok { store with deliveries := store.deliveries.erase event } := by
    rw [MemoryStore.clearDelivery, MemoryStore.whenAvailable, if_pos storable.available]
  refine agrees_of_write executes rfl rfl rfl (fun violation => rfl)
    (congrArg store.written cleared) (mirrors.of_applied_deliveries ?_ rfl)
  refine (perm_removing mirrors.deliveries fun delivery _ =>
    DeliveryRow.chosen_event delivery event).trans (.of_eq ?_)
  simp [Table.erase, Table.filter]

/-- A requeue changes the row of the parked delivery of an event. It violates nothing, and the rows
afterwards are those of the deliveries with this one requeued. -/
theorem requeue_effect (mirrors : Mirrors (content world) store) (event : Identifier)
    (now : Timestamp) :
    ∃ parameters effect,
      (Statement.requeue event now).parameters? = some parameters ∧
      (Statement.requeue event now).command.effect? (content world) parameters =
        some (.deliveries, effect) ∧
      (∀ violation, effect.violates (content world) .deliveries violation = false) ∧
      (effect.affected = 0 ↔ (store.deliveries.find? event).filter Delivery.parked = none) ∧
      effect.rows.Perm ((store.deliveries.changeIf event Delivery.parked
        (·.requeued now)).rows.map DeliveryRow.cells) := by
  have agrees (delivery : Delivery) (_ : delivery ∈ store.deliveries.rows) :=
    DeliveryRow.chosen_event_parked delivery event (.ofMoment now)
  have changed (delivery : Delivery) (_ : (delivery.event = event && delivery.parked) = true) :=
    DeliveryRow.assign_requeued delivery event now
  refine ⟨_, _, rfl, rfl, ?_, ?_, ?_⟩
  · refine Effect.allowed_changing_things (by decide) (content world) mirrors.deliveries agrees
      changed (fun delivery _ _ => DeliveryRow.admits_cells _) (fun delivery _ _ => ?_)
    simp [Delivery.requeued]
  · rw [Effect.affected_changing, length_filter_rows mirrors.deliveries agrees]
    exact store.deliveries.length_filter_eq_zero_iff event Delivery.parked
  · refine (perm_changing mirrors.deliveries agrees changed).trans (.of_eq (congrArg _ ?_))
    exact store.deliveries.map_eq_rows_changeIf event Delivery.parked fun _ => rfl

/-- Both stores let a parked record be tried again, and say whether it was parked. The condition on
the row does in the database what the memory looks up first. -/
theorem requeue_agrees (executes : server.Executes content) (storable : Storable store)
    (mirrors : Mirrors (content world) store) (event : Identifier) (now : Timestamp) :
    Agrees server content store world (.requeue event now) := by
  obtain ⟨parameters, effect, sent, does, allowed, untouched, changed⟩ :=
    requeue_effect mirrors event now
  have requeued := MemoryStore.requeue_of_available storable.available event now
  let deliveries := store.deliveries.changeIf event Delivery.parked (·.requeued now)
  have answer : store.call (.requeue event now) =
      (.ok (decide (0 < effect.affected)), { store with deliveries }) := by
    simp only [MemoryStore.call, requeued, deliveries, Table.changeIf]
    cases parked : (store.deliveries.find? event).filter Delivery.parked with
    | some delivery =>
      have touched : 0 < effect.affected := by
        rw [Nat.pos_iff_ne_zero, ne_eq, untouched, parked]
        exact Option.some_ne_none delivery
      rw [decide_eq_true touched]
      rfl
    | none =>
      rw [untouched.mpr parked]
      rfl
  exact agrees_of_write executes rfl sent does allowed answer
    (mirrors.of_applied_deliveries changed rfl)

end Outbox.Database
