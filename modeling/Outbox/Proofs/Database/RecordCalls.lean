import Outbox.Proofs.Database.Calls
import Outbox.Proofs.Store.Changes

/-!
# Calls about records

Records are inserted, listed, changed and deleted with the same answers from a database as in
memory. An insertion is refused for the key alone, and a change of status that changes nothing asks
once more why.
-/

namespace Outbox.Database

open Calendar

variable {World : Type} {server : Server World} {content : World → Content}
variable {store : MemoryStore} {world : World}

/-! ## Insertions and listings -/

/-- An insertion is over with the reply to its statement. -/
theorem serve_save (reply : World → Statement → Reply × World) (world : World)
    (record : EventRecord) :
    serve reply world (.save record) =
      Conversation.hold reply (match (reply world (.insertRecord record)).1 with
        | .ok _ => .done (.ok ())
        | .error failure =>
          if failure.isUniqueViolation then .done (.error (.duplicate record.id))
          else .done (.error (failure.during "insert"))) (reply world (.insertRecord record)).2 :=
  rfl

/-- An insertion violates nothing but the key, which it does exactly when the record is known. -/
theorem insertion_violates_iff (mirrors : Mirrors (content world) store) {record : EventRecord}
    (named : record.eventName ≠ "") (violation : Violation) :
    (Effect.adding (content world .events) (RecordRow.written record)).violates (content world)
      .events violation = true ↔
        violation = .repeated ∧ store.records.contains record.id = true := by
  have noReference : ∀ column ∈ TableName.events.columns, ∀ reference ∈ column.reference,
      ∃ row ∈ content world reference.table, (row.value reference.column).equals
        ((RecordRow.written record).value column.name) = true := by
    simp [TableName.columns]
  rw [Effect.violates_adding (RecordRow.admits_written named) noReference,
    TableName.exists_key_iff (by decide) fun name => ∃ row ∈ content world .events,
      (row.value name).equals ((RecordRow.written record).value name) = true,
    RecordRow.value_event_id, mirrors.known_iff]

/-- Both stores take a record in unless its identifier is taken. The database finds out by its
primary key, whose violation is the one error that is not a failure of the server. -/
theorem save_agrees (executes : server.Executes content) (storable : Storable store)
    (mirrors : Mirrors (content world) store) {record : EventRecord}
    (named : record.eventName ≠ "") : Agrees server content store world (.save record) := by
  have does : (Statement.insertRecord record).command.effect? (content world)
      (RecordRow.ofRecord record).data =
        some (.events, .adding (content world .events) (RecordRow.written record)) := rfl
  have violates := insertion_violates_iff mirrors named
  rcases (executes world (.insertRecord record) _ rfl).of_effect does with
    ⟨replied, allowed, same⟩ | ⟨violation, reason, violated, replied, same⟩
  · have unknown : store.records.contains record.id = false := by
      rw [← Bool.not_eq_true]
      intro known
      exact Bool.eq_false_iff.mp (allowed .repeated) ((violates .repeated).mpr ⟨rfl, known⟩)
    have saved : store.save record = .ok { store with records := store.records.put record } := by
      simp [MemoryStore.save, MemoryStore.insertAll, MemoryStore.whenAvailable, storable.available,
        unknown, Table.putAll]
    have rows : (store.records.put record).rows = store.records.rows ++ [record] := by
      rw [Table.put, dif_neg (by simp [unknown])]
    rw [Agrees, serve_save, replied, MemoryStore.call, saved]
    refine ⟨rfl, Mirrors.of_same same (mirrors.of_applied_events rfl ?_ rfl)⟩
    change (content world .events ++ [RecordRow.written record]).Perm
      ((store.records.put record).rows.map RecordRow.written)
    rw [rows, List.map_append]
    exact mirrors.events.append (.refl _)
  · obtain ⟨rfl, known⟩ := (violates violation).mp violated
    have refused : store.save record = .error (.duplicate record.id) := by
      simp [MemoryStore.save, MemoryStore.insertAll, MemoryStore.whenAvailable, storable.available,
        known]
    rw [Agrees, serve_save, replied, MemoryStore.call, refused]
    exact ⟨rfl, mirrors.of_same same⟩

/-- Both stores list the records of a status in the same order, which is total on records with
distinct identifiers. -/
theorem findByStatus_agrees (executes : server.Executes content) (storable : Storable store)
    (mirrors : Mirrors (content world) store) (status : EventStatus) :
    Agrees server content store world (.findByStatus status) := by
  obtain ⟨affected, rows, listed, inTurn, replied, same⟩ :=
    (executes world (.recordsWithStatus status) _ rfl).of_select
  -- The rows that come back are those of the records in some order, so in the order asked for.
  obtain ⟨chosen, rfl, chosenPerm⟩ : Relation.Comp (· = List.map RecordRow.written ·) List.Perm
      rows (store.records.rows.filter fun record => record.status = status) := by
    rw [List.eq_map_comp_perm]
    exact listed.trans (perm_filter mirrors.events fun record _ =>
      RecordRow.chosen_status record status)
  have fits : ∀ record ∈ chosen, RecordRow.Fits record := fun record member =>
    (storable.records record (List.mem_filter.mp (chosenPerm.mem_iff.mp member)).1).2
  have ordered : chosen.Pairwise fun left right => (!right.before left) = true := by
    refine (List.pairwise_map.mp inTurn).imp_of_mem fun left right inTurn => ?_
    exact RecordRow.not_before_of_upTo (fits _ left) (fits _ right) inTurn
  have distinct : ((store.records.rows.filter fun record =>
      record.status = status).map EventRecord.id).Nodup :=
    store.records.distinct.sublist (List.filter_sublist.map EventRecord.id)
  have found : store.findByStatus status = .ok chosen := by
    rw [MemoryStore.findByStatus, MemoryStore.whenAvailable, if_pos storable.available,
      MemoryStore.inOrder_eq distinct chosenPerm ordered]
  have picked : (chosen.map RecordRow.written).map (Row.pick RecordRow.columns) =
      (chosen.map RecordRow.ofRecord).map RecordRow.cells := by
    rw [List.map_map, List.map_map]
    exact List.map_congr_left fun record _ => RecordRow.pick_written record
  have served : serve server.reply world (.findByStatus status) =
      (.ok chosen, (server.reply world (.recordsWithStatus status)).2) := by
    rw [serve, Database.call, findByStatus, hold_send replied, picked]
    exact congrArg (·, _) (RecordRow.records_cells fits "decode outbox row")
  rw [Agrees, served, MemoryStore.call, found]
  exact ⟨rfl, mirrors.of_same same⟩

/-- The status of a record is read as it is in memory. At most one row has the identifier, so it
does not matter which of the listed rows is taken. -/
theorem hold_currentStatus (executes : server.Executes content)
    (mirrors : Mirrors (content world) store) (event : Identifier) :
    ∃ after, Mirrors (content after) store ∧
      (currentStatus event).run.hold server.reply world =
        ((match store.records.find? event with
          | none => .error (.notFound event)
          | some record => .ok record.status), after) := by
  obtain ⟨affected, rows, listed, _, replied, same⟩ :=
    (executes world (.statusOf event) _ rfl).of_select
  refine ⟨_, mirrors.of_same same, ?_⟩
  rw [currentStatus, hold_send replied]
  have ofEvent := listed.trans (perm_filter mirrors.events fun record _ =>
    RecordRow.chosen_event record event)
  have isOf : ∀ row ∈ rows, ∃ record, store.records.find? event = some record ∧
      row = RecordRow.written record := by
    intro row member
    obtain ⟨record, inside, rfl⟩ := List.mem_map.mp (ofEvent.mem_iff.mp member)
    obtain ⟨stored, named⟩ := List.mem_filter.mp inside
    have sameId : record.id = event := of_decide_eq_true named
    exact ⟨record, sameId ▸ Table.find?_of_mem stored, rfl⟩
  cases rows with
  | nil =>
    cases known : store.records.find? event with
    | none => rfl
    | some record =>
      obtain ⟨stored, named⟩ := (Table.find?_eq_some_iff _ _ _).mp known
      have inRows := ofEvent.mem_iff.mpr (List.mem_map_of_mem
        (List.mem_filter.mpr ⟨stored, decide_eq_true named⟩))
      cases inRows
  | cons row others =>
    obtain ⟨record, known, rfl⟩ := isOf row List.mem_cons_self
    have parsed : EventStatus.parse record.status.text = .ok record.status := by
      cases record.status <;> rfl
    rw [known]
    change ((EventStatus.parse record.status.text).mapError _, _) = _
    rw [parsed]
    rfl

/-! ## Changes of status -/

/-- Why the status of an event is not changed: there is no record of it, or its record is in a status
from which there is no way. -/
def refusal (store : MemoryStore) (event : Identifier) (status : EventStatus) : StoreError :=
  match store.records.find? event with
  | none => .notFound event
  | some record => .illegalTransition event record.status status

/-- A change of status that finds no pending record is refused for what the record is. -/
theorem refusal_agrees (executes : server.Executes content)
    (mirrors : Mirrors (content world) store) (event : Identifier) (status : EventStatus) :
    ∃ after, Mirrors (content after) store ∧
      (do throw (.illegalTransition event (← currentStatus event) status) :
        Operation Unit).run.hold server.reply world =
      (.error (refusal store event status), after) := by
  obtain ⟨after, mirroring, held⟩ := hold_currentStatus executes mirrors event
  refine ⟨after, mirroring, ?_⟩
  rw [hold_bind, held, refusal]
  cases store.records.find? event <;> rfl

/-- In memory a pending record is marked as sent, and any other change of status is refused for what
the record is. -/
theorem updateStatus_of_available (available : store.available = true) (event : Identifier)
    (status : EventStatus) (moment : Timestamp) :
    store.updateStatus event status moment =
      if status = .sent ∧ ((store.records.find? event).filter (·.status = .pending)).isSome then
        .ok { store with
          records := store.records.changeIf event (·.status = .pending)
            fun record => { record with status, updated := moment } }
      else .error (refusal store event status) := by
  rw [MemoryStore.updateStatus, MemoryStore.whenAvailable, if_pos available, Table.changeIf, refusal]
  cases found : store.records.find? event with
  | none => simp
  | some record =>
    cases current : record.status <;> cases status <;>
      simp [EventRecord.transition, EventStatus.mayBecome, Option.filter_some, current]

/-- A change of status changes the row of the pending record of an event. It violates nothing, and
the rows afterwards are those of the records with this one changed. -/
theorem updateStatus_effect (storable : Storable store) (mirrors : Mirrors (content world) store)
    (event : Identifier) (status : EventStatus) (moment : Timestamp) :
    ∃ parameters effect,
      (Statement.updateStatus event status moment).parameters? = some parameters ∧
      (Statement.updateStatus event status moment).command.effect? (content world) parameters =
        some (.events, effect) ∧
      (∀ violation, effect.violates (content world) .events violation = false) ∧
      effect.removed = [] ∧
      (effect.affected = 0 ↔ (store.records.find? event).filter (·.status = .pending) = none) ∧
      effect.rows.Perm ((store.records.changeIf event (·.status = .pending)
        fun record => { record with status, updated := moment }).rows.map RecordRow.written) := by
  have agrees (record : EventRecord) (_ : record ∈ store.records.rows) :=
    RecordRow.chosen_event_status record event .pending (.text status.text) (.ofMoment moment)
  have changed (record : EventRecord)
      (_ : (record.id = event && record.status = .pending) = true) :=
    RecordRow.assign_status record event status moment (.text EventStatus.pending.text)
  refine ⟨_, _, rfl, rfl, ?_, rfl, ?_, ?_⟩
  · refine Effect.allowed_changing_things (by decide) (content world) mirrors.events agrees changed
      (fun record stored _ => ?_) (fun record _ _ => ?_)
    · exact RecordRow.admits_written (storable.records record stored).1
    · simp
  · rw [Effect.affected_changing, length_filter_rows mirrors.events agrees]
    exact store.records.length_filter_eq_zero_iff event (·.status = .pending)
  · refine (perm_changing mirrors.events agrees changed).trans (.of_eq (congrArg _ ?_))
    exact store.records.map_eq_rows_changeIf event (·.status = .pending) fun _ => rfl

/-- When a change of status is refused for the same reason by both stores, they agree. -/
theorem agrees_of_refusal {event : Identifier} {status : EventStatus} {moment : Timestamp}
    {after : World} (mirroring : Mirrors (content after) store)
    (served : serve server.reply world (.updateStatus event status moment) =
      (.error (refusal store event status), after))
    (inMemory : store.updateStatus event status moment = .error (refusal store event status)) :
    Agrees server content store world (.updateStatus event status moment) := by
  rw [Agrees, served, MemoryStore.call, inMemory]
  exact ⟨rfl, mirroring⟩

/-- Both stores bring a record into another status under the same conditions. When the conditional
update of the database hits no row, it looks for the record to say why, as the memory does
beforehand. -/
theorem updateStatus_agrees (executes : server.Executes content) (storable : Storable store)
    (mirrors : Mirrors (content world) store) (event : Identifier) (status : EventStatus)
    (moment : Timestamp) :
    Agrees server content store world (.updateStatus event status moment) := by
  have inMemory := updateStatus_of_available storable.available event status moment
  cases status with
  | pending =>
    obtain ⟨after, mirroring, held⟩ := refusal_agrees executes mirrors event .pending
    rw [if_neg (by simp)] at inMemory
    exact agrees_of_refusal mirroring held inMemory
  | sent =>
    obtain ⟨parameters, effect, sent, does, allowed, nothing, untouched, changed⟩ :=
      updateStatus_effect storable mirrors event .sent moment
    obtain ⟨replied, same⟩ := (executes world _ _ sent).of_allowed does allowed
    cases found : (store.records.find? event).filter (·.status = .pending) with
    | some record =>
      have touched : effect.affected ≠ 0 := by
        rw [ne_eq, untouched, found]
        exact Option.some_ne_none record
      have served : serve server.reply world (.updateStatus event .sent moment) =
          (.ok (), (server.reply world (.updateStatus event .sent moment)).2) := by
        rw [serve, Database.call, updateStatus, if_pos rfl, hold_send replied, if_neg touched]
        rfl
      rw [if_pos ⟨rfl, by rw [found]; rfl⟩] at inMemory
      rw [Agrees, served, MemoryStore.call, inMemory]
      exact ⟨rfl, Mirrors.of_same same (mirrors.of_applied_events nothing changed rfl)⟩
    | none =>
      have kept : store.records.changeIf event (·.status = .pending)
          (fun record => { record with status := .sent, updated := moment }) = store.records := by
        rw [Table.changeIf, found]
        rfl
      rw [kept] at changed
      obtain ⟨after, mirroring, held⟩ := refusal_agrees executes
        (Mirrors.of_same same (mirrors.of_applied_events nothing changed rfl)) event .sent
      have served : serve server.reply world (.updateStatus event .sent moment) =
          (.error (refusal store event .sent), after) := by
        rw [serve, Database.call, updateStatus, if_pos rfl, hold_send replied,
          if_pos (untouched.mpr found), held]
      rw [if_neg (by simp [found])] at inMemory
      exact agrees_of_refusal mirroring served inMemory

/-! ## Deletions and statistics -/

/-- Both stores remove the same expired records and count them alike. In the database the deliveries
go with their records by the rule of the foreign key. -/
theorem deleteWhere_agrees (executes : server.Executes content) (storable : Storable store)
    (mirrors : Mirrors (content world) store) (status : EventStatus) {before : Timestamp}
    (whole : before.InMicros) :
    Agrees server content store world (.deleteWhere status before) := by
  obtain ⟨parameters, choose, sent, does, agrees⟩ : ∃ parameters choose,
      (Statement.deleteRecords status before).parameters? = some parameters ∧
      (Statement.deleteRecords status before).command.effect? (content world) parameters =
        some (.events, .removing (content world .events) choose) ∧
      ∀ record ∈ store.records.rows,
        choose (RecordRow.written record) = MemoryStore.expired status before record :=
    ⟨_, _, rfl, rfl, fun record stored =>
      RecordRow.chosen_expired record status (storable.records record stored).2 whole⟩
  have deleted := MemoryStore.deleteWhere_of_available storable.available status before
  rw [← length_filter_rows mirrors.events agrees, ← Effect.affected_removing] at deleted
  refine agrees_of_write executes rfl sent does (fun violation => rfl)
    (congrArg store.changed deleted) ⟨perm_removing mirrors.events agrees, ?_⟩
  have doomed (delivery : Delivery) : TableName.deliveries.refersTo .events
      ((content world .events).filter choose) (DeliveryRow.cells delivery) =
        (store.records.rows.filter (MemoryStore.expired status before)).any
          fun record => record.id = delivery.event := by
    rw [DeliveryRow.refersTo_cells, (perm_filter mirrors.events agrees).any_eq, List.any_map]
    simp [Function.comp_def]
  exact perm_filter mirrors.deliveries fun delivery _ => congrArg not (doomed delivery)

/-- The summary of the records says what the statistics in memory say: two counts, and the least
creation among the pending records. -/
theorem statistics_row (storable : Storable store) (mirrors : Mirrors (content world) store)
    {values : List Datum}
    (gives : List.Forall₂ (Summary.Gives [] (content world .events))
      [⟨.count, [.compare (.column "status") .equal (.literal (.status .pending))], "pending"⟩,
        ⟨.count, [.compare (.column "status") .equal (.literal (.status .sent))], "sent"⟩,
        ⟨.least "created", [.compare (.column "status") .equal (.literal (.status .pending))],
          "oldest_pending"⟩] values) :
    values = [
      .int8 (store.records.rows.filter fun record => record.status = .pending).length,
      .int8 (store.records.rows.filter fun record => record.status = .sent).length,
      ((MemoryStore.earliest? ((store.records.rows.filter fun record =>
        record.status = .pending).map EventRecord.created)).map Datum.timestamptz).getD .null] := by
  have count (status : EventStatus) : (content world .events).countP (chosen []
      [.compare (.column "status") .equal (.literal (.status status))]) =
        (store.records.rows.filter fun record => record.status = status).length := by
    rw [List.countP_eq_length_filter]
    exact length_filter_rows mirrors.events fun record _ => RecordRow.chosen_literal record status
  have created : (((content world .events).filter (chosen []
      [.compare (.column "status") .equal (.literal (.status .pending))])).map
        (·.value "created")).Perm
      (((store.records.rows.filter fun record => record.status = .pending).map
        EventRecord.created).map .timestamptz) := by
    have listed := (perm_filter mirrors.events fun record _ =>
      RecordRow.chosen_literal record .pending).map (·.value "created")
    rw [List.map_map] at listed ⊢
    refine listed.trans (.of_eq (List.map_congr_left fun record inside => ?_))
    have fits := (storable.records record (List.mem_filter.mp inside).1).2
    exact congrArg Datum.timestamptz (Timestamp.wholeMicros_of_inMicros fits.1)
  obtain _ | ⟨givesPending, _ | ⟨givesSent, _ | ⟨isLeast, ⟨⟩⟩⟩⟩ := gives
  have counted {status : EventStatus} {value : Datum}
      (given : value = .int8 ((content world .events).countP (chosen []
        [.compare (.column "status") .equal (.literal (.status status))]))) :
      value = .int8 (store.records.rows.filter fun record => record.status = status).length := by
    rw [given, count]
  rw [counted givesPending, counted givesSent, eq_of_isLeast created isLeast]

/-- Both stores count their records alike, and find the same oldest pending one. The database
summarizes its rows in a single command. -/
theorem statistics_agrees (executes : server.Executes content) (storable : Storable store)
    (mirrors : Mirrors (content world) store) :
    Agrees server content store world .statistics := by
  obtain ⟨affected, values, gives, replied, same⟩ :=
    (executes world .statistics _ rfl).of_summarize
  obtain rfl := statistics_row storable mirrors gives
  have served : serve server.reply world .statistics =
      (store.statistics, (server.reply world .statistics).2) := by
    rw [serve, Database.call, statistics, hold_send replied, MemoryStore.statistics,
      MemoryStore.whenAvailable, if_pos storable.available]
    cases MemoryStore.earliest? ((store.records.rows.filter fun record =>
      record.status = .pending).map EventRecord.created) <;> rfl
  rw [Agrees, served, MemoryStore.call]
  exact ⟨rfl, mirrors.of_same same⟩

end Outbox.Database
