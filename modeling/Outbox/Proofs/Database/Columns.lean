import Outbox.Database.Statement
import Outbox.Proofs.Database.Bound

/-!
# What comes back of what is bound

A statement binds the parts of a record or a delivery to its columns by their position, and a row is
read by the names of the columns. The two lists are written apart, and here they are shown to agree:
a row with the values that were bound is read as what they were bound for, and a row that is read as
a record has the values that are bound for it.

A column has no value for a leap second. It is bound as the second after it, and does not come back.
-/

namespace Outbox.Database

open Calendar

/-- The columns to which a statement binds its parameters, in their order. -/
def Statement.columns : Statement → List String
  | insertRecord _ => RecordRow.columns
  | saveDelivery _ => DeliveryRow.columns
  | _ => []

/-- A row has in the columns of a statement what the statement binds to them. -/
def Row.Keeps (row : Row) (statement : Statement) : Prop :=
  row.Has statement.columns (statement.parameters?.getD [])

/-- An insertion binds every cell of the row that it makes of a record. -/
theorem RecordRow.cells_keeps (record : EventRecord) :
    (ofRecord record).cells.Keeps (.insertRecord record) :=
  Row.has_zip (by decide) (Nat.le_refl 10)

/-- An upsert binds every cell of the row that it makes of a delivery. -/
theorem DeliveryRow.cells_keeps (delivery : Delivery) :
    (cells delivery).Keeps (.saveDelivery delivery) :=
  Row.has_zip (by decide) (Nat.le_refl 5)

/-- A row with what was bound for a record is read as the row of the record. -/
theorem RecordRow.read_keeps {record : EventRecord} {row : Row}
    (keeps : row.Keeps (.insertRecord record)) (fits : Fits record) :
    read row = .ok (ofRecord record) :=
  (read_has keeps).trans (congrArg Except.ok (bound_of_fits fits))

/-- What is bound for records and deliveries, with their moments in whole microseconds outside of
leap seconds, is what they are read from.

A row in which each column has the value that was bound to it for a record is read as this record. A
row that is read as a record is, value for value, the one that is bound for this record, with the
members of its metadata sorted; so it is read again when these values come back. A row in which each
column has the value that was bound to it for a delivery is read as this delivery, whose attempts
count at most 2147483647. -/
theorem columns_read_back :
    (∀ (record : EventRecord) (row : Row), row.Keeps (.insertRecord record) →
      record.created.InMicros → record.updated.InMicros →
        (RecordRow.read row).map RecordRow.record = .ok (.ok record)) ∧
    (∀ (raw : RecordRow) (record : EventRecord), raw.record = .ok record →
      ∃ (members : List (String × Json)) (sorted : Dictionary Json),
        raw.extraMetadata = .object members ∧
        ((members.map Prod.fst).Nodup → sorted.entries.Perm members) ∧
        RecordRow.ofRecord record = { raw with extraMetadata := .object sorted.entries } ∧
        ∀ row : Row, row.Keeps (.insertRecord record) →
          raw.created.InMicros → raw.updated.InMicros →
            RecordRow.read row = .ok { raw with extraMetadata := .object sorted.entries }) ∧
    ∀ (delivery : Delivery) (row : Row), row.Keeps (.saveDelivery delivery) →
      delivery.nextAttemptAt.InMicros →
        DeliveryRow.read row =
          .ok { delivery with attempts := min delivery.attempts 2147483647 } := by
  refine ⟨?_, ?_, ?_⟩
  · intro record row keeps created updated
    rw [RecordRow.read_keeps keeps ⟨created, updated⟩]
    exact congrArg Except.ok (RecordRow.record_ofRecord record)
  · intro raw record made
    obtain ⟨members, written, same⟩ := RecordRow.record_eq_ok_iff.mp made
    refine ⟨members, .ofList members, written, Dictionary.entries_ofList_perm, same, ?_⟩
    intro row keeps created updated
    have sameCreated : record.created = raw.created := congrArg RecordRow.created same
    have sameUpdated : record.updated = raw.updated := congrArg RecordRow.updated same
    have fits : RecordRow.Fits record := by
      rw [RecordRow.Fits, sameCreated, sameUpdated]
      exact ⟨created, updated⟩
    rw [RecordRow.read_keeps keeps fits, same]
    rfl
  · intro delivery row keeps whole
    rw [DeliveryRow.read_has keeps, DeliveryRow.bound, Timestamp.wholeMicros_of_inMicros whole]
    rfl

/-- A record of a supplier with metadata, a quarter of a second after the first of March 2024 at
noon. -/
def importedSupplier : EventRecord where
  id := ⟨11, by decide⟩
  aggregate := ⟨12, by decide⟩
  aggregateType := .supplier
  status := .pending
  eventName := "registered"
  byUser := ⟨13, by decide⟩
  extraMetadata := .ofList [("source", .string "import"), ("batch", .count 7)]
  payload := .null
  created := ⟨1709294400, 250000000, by decide⟩
  updated := ⟨1709294400, 250000000, by decide⟩

/-- The row of the record with its metadata in another order. -/
def importedRow : RecordRow :=
  { RecordRow.ofRecord importedSupplier with
    extraMetadata := .object [("source", .string "import"), ("batch", .count 7)] }

/-- A delivery with more attempts than its column can hold. -/
def tirelessDelivery : Delivery :=
  ⟨⟨11, by decide⟩, 4294967295, "broker down", ⟨1709294400, 250000000, by decide⟩, false⟩

/-- The record and the delivery come back, and the row is rebuilt with its metadata sorted. -/
theorem importedSupplier_read_back :
    (RecordRow.read (RecordRow.ofRecord importedSupplier).cells).map RecordRow.record =
        .ok (.ok importedSupplier) ∧
      (∃ sorted : Dictionary Json,
        RecordRow.ofRecord importedSupplier =
          { importedRow with extraMetadata := .object sorted.entries }) ∧
      DeliveryRow.read (DeliveryRow.cells tirelessDelivery) =
        .ok { tirelessDelivery with attempts := 2147483647 } := by
  obtain ⟨records, rows, deliveries⟩ := columns_read_back
  refine ⟨?_, ?_, ?_⟩
  · exact records _ _ (RecordRow.cells_keeps _) (by decide) (by decide)
  · have made : importedRow.record = .ok importedSupplier := rfl
    obtain ⟨_, sorted, _, _, same, _⟩ := rows importedRow importedSupplier made
    exact ⟨sorted, same⟩
  · exact deliveries _ _ (DeliveryRow.cells_keeps _) (by decide)

/-- The record as if it had been made half a second into the leap second at the end of 2016. -/
def leapSupplier : EventRecord :=
  { importedSupplier with
    created := ⟨1483228799, 1500000000, by decide⟩
    updated := ⟨1483228799, 1500000000, by decide⟩ }

/-- The moments of this record are in whole microseconds, and its row comes back with what was bound
to each column. It is read as a record of the second after, half a second into 2017. -/
theorem leap_second_not_read_back :
    leapSupplier.created.nanos % 1000 = 0 ∧ leapSupplier.updated.nanos % 1000 = 0 ∧
      (RecordRow.ofRecord leapSupplier).cells.Keeps (.insertRecord leapSupplier) ∧
      (RecordRow.read (RecordRow.ofRecord leapSupplier).cells).map RecordRow.record =
        .ok (.ok { leapSupplier with
          created := ⟨1483228800, 500000000, by decide⟩
          updated := ⟨1483228800, 500000000, by decide⟩ }) ∧
      (RecordRow.read (RecordRow.ofRecord leapSupplier).cells).map RecordRow.record ≠
        .ok (.ok leapSupplier) := by
  have read : (RecordRow.read (RecordRow.ofRecord leapSupplier).cells).map RecordRow.record =
      .ok (.ok { leapSupplier with
        created := ⟨1483228800, 500000000, by decide⟩
        updated := ⟨1483228800, 500000000, by decide⟩ }) := rfl
  refine ⟨by decide, by decide, RecordRow.cells_keeps _, read, ?_⟩
  rw [read]
  intro same
  have moved : (⟨1483228800, 500000000, by decide⟩ : Timestamp) = leapSupplier.created :=
    congrArg EventRecord.created (Except.ok.inj (Except.ok.inj same))
  revert moved
  decide

end Outbox.Database
