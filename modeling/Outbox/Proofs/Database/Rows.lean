import Outbox.Database.DeliveryRow
import Outbox.Database.RecordRow

/-!
# Reading rows

A row is read column by column, and each column fails only because of the row, which a store
operation reports as corrupt. So a row that cannot be read never looks as if the store could not be
reached. Rows of deliveries are read together, and one of them makes all fail. Rows of records are
read one by one, and one that fails is left out.
-/

namespace Outbox.Database

/-- A failure to read a row. A store operation reports it as a corrupt row. -/
def Failure.IsOfRow (failure : Failure) : Prop :=
  ∀ operation, ∃ reason, failure.during operation = .corrupt reason

/-- Whether something fails only because a row cannot be read. -/
def ReadsRow {Value : Type} (outcome : Except Failure Value) : Prop :=
  ∀ failure, outcome = .error failure → failure.IsOfRow

/-- Where nothing fails no row is to blame. -/
theorem readsRow_pure {Value : Type} (value : Value) :
    ReadsRow (pure value : Except Failure Value) := by
  intro failure failed
  cases failed

/-- Readers one after the other fail only because of their row if each of them does. -/
theorem readsRow_bind {Value Next : Type} {first : Except Failure Value}
    {next : Value → Except Failure Next} (firstReads : ReadsRow first)
    (nextReads : ∀ value, ReadsRow (next value)) : ReadsRow (first >>= next) := by
  intro failure failed
  cases first with
  | error other =>
    have same : other = failure := Except.error.inj failed
    exact firstReads failure (congrArg Except.error same)
  | ok value => exact nextReads value failure failed

/-- Reading a column fails only because of the row: the column is missing or its value is not
readable. So the operation reports a corrupt row and no outage. -/
theorem readsRow_get {Value : Type} (row : Row) (reader : Reader Value) (column : String) :
    ReadsRow (row.get reader column) := by
  intro failure failed operation
  rw [Row.get] at failed
  cases found : row.find? column with
  | none =>
    simp only [found] at failed
    obtain rfl := Except.error.inj failed
    exact ⟨_, rfl⟩
  | some datum =>
    simp only [found] at failed
    cases read : reader.read datum with
    | ok value =>
      rw [read] at failed
      change Except.ok value = .error failure at failed
      cases failed
    | error reason =>
      rw [read] at failed
      change Except.error (Failure.columnUnreadable (Text.quoted column) reason) =
        .error failure at failed
      obtain rfl := Except.error.inj failed
      exact ⟨_, rfl⟩

/-- Reading a delivery fails only because of the row. -/
theorem readsRow_delivery (row : Row) : ReadsRow (DeliveryRow.read row) := by
  rw [DeliveryRow.read]
  refine readsRow_bind (readsRow_get row _ _) fun attempts => ?_
  refine readsRow_bind (readsRow_get row _ _) fun event => ?_
  refine readsRow_bind (readsRow_get row _ _) fun lastError => ?_
  refine readsRow_bind (readsRow_get row _ _) fun nextAttemptAt => ?_
  refine readsRow_bind (readsRow_get row _ _) fun parked => ?_
  exact readsRow_pure _

/-- Reading a record fails only because of the row. -/
theorem readsRow_record (row : Row) : ReadsRow (RecordRow.read row) := by
  rw [RecordRow.read]
  refine readsRow_bind (readsRow_get row _ _) fun event => ?_
  refine readsRow_bind (readsRow_get row _ _) fun aggregate => ?_
  refine readsRow_bind (readsRow_get row _ _) fun aggregateType => ?_
  refine readsRow_bind (readsRow_get row _ _) fun status => ?_
  refine readsRow_bind (readsRow_get row _ _) fun eventName => ?_
  refine readsRow_bind (readsRow_get row _ _) fun byUser => ?_
  refine readsRow_bind (readsRow_get row _ _) fun extraMetadata => ?_
  refine readsRow_bind (readsRow_get row _ _) fun payload => ?_
  refine readsRow_bind (readsRow_get row _ _) fun created => ?_
  refine readsRow_bind (readsRow_get row _ _) fun updated => ?_
  exact readsRow_pure _

/-- Rows are read together, and one that cannot be read makes all of them fail. The error is that of
the first such row, which need not be the given one. -/
theorem mapM_fails {Value : Type} (read : Row → Except Failure Value) {rows : List Row} {row : Row}
    (member : row ∈ rows) (unreadable : ∃ failure, read row = .error failure)
    (reads : ∀ row, ReadsRow (read row)) :
    ∃ failure, rows.mapM read = .error failure ∧ failure.IsOfRow := by
  induction rows with
  | nil => cases member
  | cons first rest inductionHypothesis =>
    rw [List.mapM_cons]
    cases firstRead : read first with
    | error failure => exact ⟨failure, rfl, reads first failure firstRead⟩
    | ok value =>
      have inRest : row ∈ rest := by
        rcases List.mem_cons.mp member with rfl | inRest
        · obtain ⟨failure, failed⟩ := unreadable
          rw [firstRead] at failed
          cases failed
        · exact inRest
      obtain ⟨failure, failed, ofRow⟩ := inductionHypothesis inRest
      refine ⟨failure, ?_, ofRow⟩
      rw [failed]
      rfl

/-! ## Rows of records -/

namespace RecordRow

/-- The error of a row that did not come through because the store is out of reach. -/
def outage? : Except StoreError RecordRow → Option StoreError
  | .error error => if error.isUnavailable then some error else none
  | .ok _ => none

/-- The record of a row, if it came through and can be read. -/
def record? : Except StoreError RecordRow → Option EventRecord
  | .error _ => none
  | .ok row => row.record.toOption

/-- A row shows an outage exactly when it did not come through because of the storage. -/
theorem outage?_eq_some_iff {row : Except StoreError RecordRow} {error : StoreError} :
    outage? row = some error ↔ row = .error error ∧ ∃ reason, error = .storage reason := by
  cases row with
  | ok row => simp [outage?]
  | error other => cases other <;> simp [outage?, StoreError.isUnavailable] <;> grind

/-- A list of rows gives the records of the rows that have one, unless a row tells of an outage.
Both laws about bad rows are read off this equation. -/
theorem records_eq (rows : List (Except StoreError RecordRow)) :
    records rows = (rows.findSome? outage?).elim (.ok (rows.filterMap record?)) .error := by
  induction rows with
  | nil => rfl
  | cons first rest inductionHypothesis =>
    cases first with
    | error error =>
      rw [records]
      by_cases out : error.isUnavailable = true
      · rw [List.findSome?_cons, outage?, if_pos out, if_pos out]
        rfl
      · rw [List.findSome?_cons, outage?, if_neg out, List.filterMap_cons_none rfl, if_neg out]
        exact inductionHypothesis
    | ok row =>
      rw [records, List.findSome?_cons, outage?]
      cases made : row.record with
      | error error =>
        rw [List.filterMap_cons_none (by rw [record?, made, Except.toOption])]
        exact inductionHypothesis
      | ok record =>
        rw [List.filterMap_cons_some (by rw [record?, made, Except.toOption])]
        dsimp only
        rw [inductionHypothesis]
        cases rest.findSome? outage? <;> rfl

/-- The rows fail exactly with the first outage that they show. -/
theorem records_eq_error_iff {rows : List (Except StoreError RecordRow)} {error : StoreError} :
    records rows = .error error ↔ rows.findSome? outage? = some error := by
  rw [records_eq]
  cases rows.findSome? outage? <;> simp

/-- The rows are read exactly when none of them shows an outage, and then as the records of those
that came through and can be read. -/
theorem records_eq_ok_iff {rows : List (Except StoreError RecordRow)}
    {list : List EventRecord} :
    records rows = .ok list ↔ rows.findSome? outage? = none ∧ rows.filterMap record? = list := by
  rw [records_eq]
  cases rows.findSome? outage? <;> simp

/-- A row that is read, or is not, never tells of an outage. -/
theorem no_outage (operation : String) (rows : List Row) :
    (rows.map fun row => (read row).mapError (Failure.during operation)).findSome? outage? =
      none := by
  rw [List.findSome?_eq_none_iff]
  intro outcome member
  obtain ⟨row, _, rfl⟩ := List.mem_map.mp member
  cases through : read row with
  | ok raw => rfl
  | error failure =>
    obtain ⟨reason, corrupt⟩ := readsRow_record row failure through operation
    change (if (failure.during operation).isUnavailable then _ else none) = none
    rw [corrupt]
    rfl

end RecordRow

/-- The records of rows can always be loaded, whatever the rows hold. -/
theorem records_of_rows (operation : String) (rows : List Row) :
    ∃ records, RecordRow.records (rows.map fun row =>
      (RecordRow.read row).mapError (Failure.during operation)) = .ok records :=
  ⟨_, RecordRow.records_eq_ok_iff.mpr ⟨RecordRow.no_outage operation rows, rfl⟩⟩

end Outbox.Database
