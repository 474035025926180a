import Outbox.Database.DeliveryRow
import Outbox.Database.RecordRow
import Outbox.Proofs.Calendar
import Outbox.Proofs.Json.Records

/-!
# Rows that hold what was bound

A row in which the columns have the values that were bound for a record or a delivery is read back
as the same record or delivery. Two kinds of values do not come through as they are: a column keeps
whole microseconds, and the number of attempts has an upper bound.
-/

namespace Outbox

open Calendar

/-! ## Moments -/

/-- A moment in whole microseconds, outside of leap seconds, which a column has no values for. -/
def Calendar.Timestamp.InMicros (moment : Timestamp) : Prop :=
  moment.isLeap = false ∧ moment.nanos % 1000 = 0

/-- Whether a moment fits a column can be seen from its nanoseconds. -/
instance (moment : Timestamp) : Decidable moment.InMicros :=
  inferInstanceAs (Decidable (_ ∧ _))

/-- A moment in whole microseconds is bound as it is. Binding counts the microseconds since 2000 and
back, which loses only what is less than one. -/
theorem Calendar.Timestamp.wholeMicros_of_inMicros {moment : Timestamp}
    (whole : moment.InMicros) : moment.wholeMicros = moment := by
  obtain ⟨plain, micros⟩ := whole
  rw [isLeap_eq_false] at plain
  have exact :
      ((moment.seconds - secondsTo2000) * (nanosPerSecond : Int) + moment.nanos).tdiv 1000 * 1000 =
        (moment.seconds - secondsTo2000) * nanosPerSecond + moment.nanos := by
    apply Int.tdiv_mul_cancel
    simp only [nanosPerSecond]
    omega
  have seconds : secondsTo2000 + ((moment.seconds - secondsTo2000) * (nanosPerSecond : Int) +
      moment.nanos) / nanosPerSecond = moment.seconds := by
    simp only [nanosPerSecond]
    omega
  have nanos : (((moment.seconds - secondsTo2000) * (nanosPerSecond : Int) + moment.nanos) %
      nanosPerSecond).toNat = moment.nanos := by
    simp only [nanosPerSecond]
    omega
  rw [wholeMicros]
  simp only [exact, seconds, nanos, ofParts?_self, Option.getD_some]

/-! ## Names -/

/-- A kind is read exactly from its written form. -/
theorem AggregateType.parse_eq_ok_iff {text : String} {kind : AggregateType} :
    AggregateType.parse text = .ok kind ↔ text = kind.text := by
  have listed : lookUp? text known = some kind ↔ text = kind.text := by
    rw [lookUp?_eq_some_iff (by decide)]
    cases kind <;> simp [known, all, AggregateType.text]
  rw [parse, ← listed]
  cases lookUp? text known <;> simp

/-- A status is read exactly from its written form. -/
theorem EventStatus.parse_eq_ok_iff {text : String} {status : EventStatus} :
    EventStatus.parse text = .ok status ↔ text = status.text := by
  have listed : lookUp? text known = some status ↔ text = status.text := by
    rw [lookUp?_eq_some_iff (by decide)]
    cases status <;> simp [known, all, EventStatus.text]
  rw [parse, ← listed]
  cases lookUp? text known <;> simp

namespace Database

/-! ## Columns -/

/-- A row has certain values in some columns, each under the name of its column, in whatever order
it lists them and whatever other columns there are. -/
def Row.Has (row : Row) (columns : List String) (values : List Datum) : Prop :=
  ∀ cell ∈ columns.zip values, row.find? cell.1 = some cell.2

/-- A column is looked up among the values under their names. -/
theorem Row.find?_eq_lookUp? (row : Row) (column : String) :
    row.find? column = lookUp? column row.reverse := by
  rw [find?]
  induction row.reverse with
  | nil => rfl
  | cons cell rest inductionHypothesis =>
    rw [lookUp?, List.find?_cons]
    by_cases same : cell.1 = column
    · simp [same]
    · simp [same, Ne.symm same, inductionHypothesis]

/-- Columns of different names that are listed with their values have them. -/
theorem Row.has_zip {columns : List String} {values : List Datum} (distinct : columns.Nodup)
    (enough : columns.length ≤ values.length) : Row.Has (columns.zip values) columns values := by
  intro cell member
  have named : ((columns.zip values).reverse.map Prod.fst).Nodup := by
    rw [List.map_reverse, List.map_fst_zip enough, List.Nodup, List.pairwise_reverse]
    exact distinct.imp Ne.symm
  rw [find?_eq_lookUp?]
  exact (lookUp?_eq_some_iff named).mpr (List.mem_reverse.mpr member)

/-- A column whose cell is there and readable is read as that cell. -/
theorem Row.get_found {Value : Type} {row : Row} {reader : Reader Value} {column : String}
    {datum : Datum} {value : Value} (found : row.find? column = some datum)
    (readable : reader.read datum = .ok value) : row.get reader column = .ok value := by
  rw [Row.get, found]
  dsimp only
  rw [readable]
  rfl

/-! ## Records -/

/-- The row that a server keeps of a record: the values that were bound. -/
def RecordRow.bound (record : EventRecord) : RecordRow :=
  { ofRecord record with
    created := record.created.wholeMicros
    updated := record.updated.wholeMicros }

/-- Whether a row keeps all of a record. -/
def RecordRow.Fits (record : EventRecord) : Prop :=
  record.created.InMicros ∧ record.updated.InMicros

/-- Whether a record fits its row can be seen from its two moments. -/
instance (record : EventRecord) : Decidable (RecordRow.Fits record) :=
  inferInstanceAs (Decidable (_ ∧ _))

/-- A record that fits loses nothing when it is bound. -/
theorem RecordRow.bound_of_fits {record : EventRecord} (fits : Fits record) :
    bound record = ofRecord record := by
  rw [bound, Timestamp.wholeMicros_of_inMicros fits.1, Timestamp.wholeMicros_of_inMicros fits.2]
  rfl

/-- A row of records with its values under the names of their columns. -/
def RecordRow.cells (row : RecordRow) : Row :=
  columns.zip row.data

/-- Reading goes by the names of the columns, and a moment comes back in whole microseconds. -/
theorem RecordRow.read_has {row : Row} {raw : RecordRow} (has : row.Has columns raw.data) :
    read row = .ok { raw with
      created := raw.created.wholeMicros
      updated := raw.updated.wholeMicros } := by
  simp only [Row.Has, columns, data, List.zip_cons_cons, List.forall_mem_cons] at has
  obtain ⟨event, aggregate, kind, status, name, user, metadata, payload, created, updated, _⟩ := has
  rw [read, Row.get_found event rfl, Row.get_found aggregate rfl, Row.get_found kind rfl,
    Row.get_found status rfl, Row.get_found name rfl, Row.get_found user rfl,
    Row.get_found metadata rfl, Row.get_found payload rfl, Row.get_found created rfl,
    Row.get_found updated rfl]
  rfl

/-- A row whose moments fit their columns is read back from its cells. -/
theorem RecordRow.read_cells {row : RecordRow} (created : row.created.InMicros)
    (updated : row.updated.InMicros) : RecordRow.read row.cells = .ok row := by
  have has : row.cells.Has columns row.data := Row.has_zip (by decide) (Nat.le_refl 10)
  rw [read_has has, Timestamp.wholeMicros_of_inMicros created,
    Timestamp.wholeMicros_of_inMicros updated]

/-- A row is that of a record, except that it may list the metadata in another order. -/
def RecordRow.IsOf (row : RecordRow) (record : EventRecord) : Prop :=
  ∃ members, row.extraMetadata = .object members ∧
    ofRecord record = { row with extraMetadata := .ofMembers members }

/-- The row that is made of a record is a row of it. -/
theorem RecordRow.isOf_ofRecord (record : EventRecord) : (ofRecord record).IsOf record := by
  refine ⟨record.extraMetadata.entries, rfl, ?_⟩
  rw [Json.ofMembers, Dictionary.ofList_entries]
  rfl

/-- The record that is made of a row is the one whose row it is. So whatever else is known of a row,
at most one record can be read from it. -/
theorem RecordRow.record_eq_ok_iff {row : RecordRow} {record : EventRecord} :
    row.record = .ok record ↔ row.IsOf record := by
  constructor
  · intro made
    rw [RecordRow.record] at made
    cases kind : AggregateType.parse row.aggregateType with
    | error error =>
      rw [kind] at made
      cases made
    | ok known =>
      cases status : EventStatus.parse row.status with
      | error error =>
        rw [kind, status] at made
        cases made
      | ok current =>
        cases metadata : Json.decodeMap Json.decodeJson (Json.source row.extraMetadata) with
        | error error =>
          rw [kind, status, metadata] at made
          cases made
        | ok dictionary =>
          rw [kind, status, metadata] at made
          obtain ⟨members, written, rfl⟩ := Json.decodeMap_eq_ok_iff.mp metadata
          obtain rfl := Except.ok.inj made
          refine ⟨members, written, ?_⟩
          rw [AggregateType.parse_eq_ok_iff] at kind
          rw [EventStatus.parse_eq_ok_iff] at status
          simp only [ofRecord, ← kind, ← status]
          rfl
  · rintro ⟨members, written, same⟩
    have rebuilt : row = { ofRecord record with extraMetadata := .object members } := by
      rw [same, ← written]
    have sorted : Dictionary.ofList members = record.extraMetadata := by
      have listed := congrArg RecordRow.extraMetadata same
      exact Dictionary.ext_entries (Json.object.inj listed).symm
    have kind : AggregateType.parse record.aggregateType.text = .ok record.aggregateType :=
      AggregateType.parse_eq_ok_iff.mpr rfl
    have status : EventStatus.parse record.status.text = .ok record.status :=
      EventStatus.parse_eq_ok_iff.mpr rfl
    have metadata : Json.decodeMap Json.decodeJson (Json.source (.object members)) =
        .ok record.extraMetadata :=
      Json.decodeMap_eq_ok_iff.mpr ⟨members, rfl, sorted.symm⟩
    rw [rebuilt]
    simp only [RecordRow.record, ofRecord, kind, status, metadata]
    rfl

/-- The kind, the status and the metadata of a record are read back from its row. -/
theorem RecordRow.record_ofRecord (record : EventRecord) :
    (RecordRow.ofRecord record).record = .ok record :=
  record_eq_ok_iff.mpr (isOf_ofRecord record)

/-- The records of rows that keep all of them are loaded in the order of the rows. -/
theorem RecordRow.records_cells {list : List EventRecord} (fits : ∀ record ∈ list, Fits record)
    (operation : String) :
    records (((list.map ofRecord).map cells).map fun row =>
      (read row).mapError (Failure.during operation)) = .ok list := by
  induction list with
  | nil => rfl
  | cons record rest inductionHypothesis =>
    obtain ⟨⟨created, updated⟩, restFits⟩ := List.forall_mem_cons.mp fits
    have row : read (ofRecord record).cells = .ok (ofRecord record) := read_cells created updated
    have first : (read (ofRecord record).cells).mapError (Failure.during operation) =
        .ok (ofRecord record) := by
      rw [row]
      rfl
    simp only [List.map_cons, first, records, record_ofRecord, inductionHypothesis restFits]
    rfl

/-! ## Deliveries -/

/-- The row that a server keeps of a delivery: the values that were bound. -/
def DeliveryRow.bound (delivery : Delivery) : Delivery :=
  { delivery with
    attempts := min delivery.attempts mostAttempts
    nextAttemptAt := delivery.nextAttemptAt.wholeMicros }

/-- Whether a row keeps all of a delivery. -/
def DeliveryRow.Fits (delivery : Delivery) : Prop :=
  delivery.attempts ≤ mostAttempts ∧ delivery.nextAttemptAt.InMicros

/-- Whether a delivery fits its row can be seen from its moment and its count. -/
instance (delivery : Delivery) : Decidable (DeliveryRow.Fits delivery) :=
  inferInstanceAs (Decidable (_ ∧ _))

/-- A delivery that fits loses nothing when it is bound. -/
theorem DeliveryRow.bound_of_fits {delivery : Delivery} (fits : Fits delivery) :
    bound delivery = delivery := by
  rw [bound, Nat.min_eq_left fits.1, Timestamp.wholeMicros_of_inMicros fits.2]

/-- The row of a delivery with its values under the names of their columns. -/
def DeliveryRow.cells (delivery : Delivery) : Row :=
  columns.zip (data delivery)

/-- Reading goes by the names of the columns, and brings back what was bound. -/
theorem DeliveryRow.read_has {row : Row} {delivery : Delivery}
    (has : row.Has columns (data delivery)) : read row = .ok (bound delivery) := by
  simp only [Row.Has, columns, data, List.zip_cons_cons, List.forall_mem_cons] at has
  obtain ⟨event, attempts, lastError, nextAttemptAt, parked, _⟩ := has
  have counted : (min (delivery.attempts : Int) mostAttempts).toNat =
      min delivery.attempts mostAttempts := by
    omega
  rw [read, Row.get_found attempts rfl, Row.get_found event rfl, Row.get_found lastError rfl,
    Row.get_found nextAttemptAt rfl, Row.get_found parked rfl, bound, ← counted]
  rfl

/-- A delivery that fits is read back from its cells. -/
theorem DeliveryRow.read_cells {delivery : Delivery} (fits : Fits delivery) :
    read (cells delivery) = .ok delivery := by
  have has : (cells delivery).Has columns (data delivery) :=
    Row.has_zip (by decide) (Nat.le_refl 5)
  rw [read_has has, bound_of_fits fits]

/-- Rows that keep all of their deliveries are read in their order. -/
theorem DeliveryRow.mapM_read_cells {list : List Delivery}
    (fits : ∀ delivery ∈ list, Fits delivery) : (list.map cells).mapM read = .ok list := by
  induction list with
  | nil => rfl
  | cons delivery rest inductionHypothesis =>
    obtain ⟨fitting, restFits⟩ := List.forall_mem_cons.mp fits
    rw [List.map_cons, List.mapM_cons, read_cells fitting, inductionHypothesis restFits]
    rfl

end Database

end Outbox
