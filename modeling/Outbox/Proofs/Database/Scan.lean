import Mathlib.Data.List.Forall2
import Outbox.Proofs.Database.Calls
import Outbox.Proofs.Database.Rows

/-!
# Bad rows among good ones

A list of fetched rows is read one by one. A row may not come through at all, and one that does may
name a kind or a status that there is not, or keep no object as its metadata. Such rows are passed
over, so that the others give the same records as without them. Only a row that did not come through
because the store is out of reach ends the list, with the error of the first one.
-/

namespace Outbox.Database

namespace RecordRow

/-! ## Single rows -/

/-- Whether a row names a kind and a status that there are and keeps an object as its metadata. -/
def isReadable (row : RecordRow) : Bool :=
  AggregateType.all.any (fun kind => row.aggregateType = kind.text) &&
    EventStatus.all.any (fun status => row.status = status.text) &&
    match row.extraMetadata with
    | .object _ => true
    | _ => false

/-- A row is that of some record exactly if it can be read: its kind and its status are known words,
and its metadata are an object. -/
theorem isReadable_iff (row : RecordRow) : row.isReadable = true ↔ ∃ record, row.IsOf record := by
  constructor
  · intro readable
    rw [isReadable, Bool.and_eq_true, Bool.and_eq_true, List.any_eq_true, List.any_eq_true]
      at readable
    obtain ⟨⟨⟨kind, _, named⟩, status, _, called⟩, isObject⟩ := readable
    cases written : row.extraMetadata with
    | object members =>
      let record : EventRecord :=
        { id := row.event, aggregate := row.aggregate, aggregateType := kind, status := status,
          eventName := row.eventName, byUser := row.byUser, extraMetadata := .ofList members,
          payload := row.payload, created := row.created, updated := row.updated }
      refine ⟨record, members, written, ?_⟩
      simp only [ofRecord, record, ← of_decide_eq_true named, ← of_decide_eq_true called]
      rfl
    | _ =>
      rw [written] at isObject
      cases isObject
  · rintro ⟨record, members, written, same⟩
    have kind : row.aggregateType = record.aggregateType.text :=
      (congrArg RecordRow.aggregateType same).symm
    have status : row.status = record.status.text := (congrArg RecordRow.status same).symm
    rw [isReadable, written, kind, status]
    cases record.aggregateType <;> cases record.status <;> rfl

/-! ## Lists of rows -/

/-- The records of rows are those of the readable rows, one by one. So their number and their order
are those of the readable rows. -/
theorem forall₂_record? (rows : List (Except StoreError RecordRow)) :
    List.Forall₂ IsOf ((rows.filterMap Except.toOption).filter isReadable)
      (rows.filterMap record?) := by
  induction rows with
  | nil => exact .nil
  | cons first rest inductionHypothesis =>
    cases first with
    | error error =>
      rw [List.filterMap_cons_none rfl, List.filterMap_cons_none rfl]
      exact inductionHypothesis
    | ok row =>
      have through : Except.toOption (.ok row : Except StoreError RecordRow) = some row := rfl
      rw [List.filterMap_cons_some through, List.filter_cons]
      cases made : row.record with
      | error error =>
        have unreadable : ¬row.isReadable = true := by
          rw [isReadable_iff]
          rintro ⟨record, ofRow⟩
          rw [record_eq_ok_iff.mpr ofRow] at made
          cases made
        rw [if_neg unreadable, List.filterMap_cons_none (by rw [record?, made, Except.toOption])]
        exact inductionHypothesis
      | ok record =>
        have ofRow : row.IsOf record := record_eq_ok_iff.mp made
        rw [if_pos ((isReadable_iff row).mpr ⟨record, ofRow⟩),
          List.filterMap_cons_some (by rw [record?, made, Except.toOption])]
        exact .cons ofRow inductionHypothesis

/-! ## Fetched rows -/

/-- What comes through of the rows that a statement brings back. -/
def fetched (rows : List Row) : List (Except StoreError RecordRow) :=
  rows.map fun row => (read row).mapError (Failure.during "decode outbox row")

end RecordRow

/-- A row from which no record is made: it cannot be read as a row of records, or it can and says
something else. -/
def Row.IsBad (row : Row) : Prop :=
  ∀ raw, RecordRow.read row = .ok raw → raw.isReadable = false

/-- The same rows in the same order, among which bad rows have been added anywhere. -/
inductive Strewn : List Row → List Row → Prop
  | nil : Strewn [] []
  | keep {few many : List Row} (row : Row) (others : Strewn few many) :
    Strewn (row :: few) (row :: many)
  | add {few many : List Row} (row : Row) (bad : row.IsBad) (others : Strewn few many) :
    Strewn few (row :: many)

/-- Bad rows have no records, so rows among which they are strewn give the same records in the same
order. -/
theorem Strewn.records {few many : List Row} (strewn : Strewn few many) :
    (RecordRow.fetched many).filterMap RecordRow.record? =
      (RecordRow.fetched few).filterMap RecordRow.record? := by
  induction strewn with
  | nil => rfl
  | keep row others inductionHypothesis =>
    rw [RecordRow.fetched, RecordRow.fetched] at *
    rw [List.map_cons, List.map_cons, List.filterMap_cons, List.filterMap_cons,
      inductionHypothesis]
  | add row bad others inductionHypothesis =>
    have none : RecordRow.record?
        ((RecordRow.read row).mapError (Failure.during "decode outbox row")) = none := by
      cases through : RecordRow.read row with
      | error failure => rfl
      | ok raw =>
        change raw.record.toOption = none
        cases made : raw.record with
        | error error => rfl
        | ok record =>
          have readable := (raw.isReadable_iff).mpr ⟨record, RecordRow.record_eq_ok_iff.mp made⟩
          rw [bad raw through] at readable
          cases readable
    rw [RecordRow.fetched, RecordRow.fetched] at *
    rw [List.map_cons, List.filterMap_cons_none none, inductionHypothesis]

/-- The records with a status are those of the rows that the server lists for it. -/
theorem serve_findByStatus {World : Type} {reply : World → Statement → Reply × World}
    {world : World} {status : EventStatus} {affected : Nat} {rows : List Row}
    (replied : (reply world (.recordsWithStatus status)).1 = .ok ⟨affected, rows⟩) :
    (serve reply world (.findByStatus status)).1 =
      .ok ((RecordRow.fetched rows).filterMap RecordRow.record?) := by
  rw [serve, call, findByStatus, hold_send replied]
  exact RecordRow.records_eq_ok_iff.mpr ⟨RecordRow.no_outage "decode outbox row" rows, rfl⟩

/-- A bad row never hides the others.

A list of rows fails exactly if one of them did not come through because the store is out of reach,
and then with the error of the first such row. Otherwise it gives the records of the rows that came
through, name a kind and a status that there are and keep an object as their metadata: in their
order, one record for each. So the records that a database lists for a status do not change when
rows that cannot be read are added to them anywhere. -/
theorem bad_rows_skipped :
    (∀ rows : List (Except StoreError RecordRow),
      ((∃ error, RecordRow.records rows = .error error) ↔
        ∃ reason, .error (.storage reason) ∈ rows) ∧
      (∀ error, RecordRow.records rows = .error error →
        ∃ before reason after, error = .storage reason ∧ rows = before ++ .error error :: after ∧
          ∀ other, .error (.storage other) ∉ before) ∧
      ∀ records, RecordRow.records rows = .ok records →
        List.Forall₂ RecordRow.IsOf
          ((rows.filterMap Except.toOption).filter RecordRow.isReadable) records) ∧
    ∀ (World : Type) (reply : World → Statement → Reply × World) (world other : World)
      (status : EventStatus) (affected more : Nat) (few many : List Row),
      (reply world (.recordsWithStatus status)).1 = .ok ⟨affected, few⟩ →
      (reply other (.recordsWithStatus status)).1 = .ok ⟨more, many⟩ → Strewn few many →
        ∃ records, (serve reply world (.findByStatus status)).1 = .ok records ∧
          (serve reply other (.findByStatus status)).1 = .ok records := by
  refine ⟨fun rows => ⟨?_, ?_, ?_⟩, ?_⟩
  · constructor
    · rintro ⟨error, failed⟩
      obtain ⟨row, member, out⟩ :=
        List.exists_of_findSome?_eq_some (RecordRow.records_eq_error_iff.mp failed)
      obtain ⟨rfl, reason, rfl⟩ := RecordRow.outage?_eq_some_iff.mp out
      exact ⟨reason, member⟩
    · rintro ⟨reason, member⟩
      have out : (rows.findSome? RecordRow.outage?).isSome :=
        List.findSome?_isSome_iff.mpr ⟨_, member, rfl⟩
      obtain ⟨error, found⟩ := Option.isSome_iff_exists.mp out
      exact ⟨error, RecordRow.records_eq_error_iff.mpr found⟩
  · intro error failed
    obtain ⟨before, row, after, rfl, out, earlier⟩ :=
      List.findSome?_eq_some_iff.mp (RecordRow.records_eq_error_iff.mp failed)
    obtain ⟨rfl, reason, rfl⟩ := RecordRow.outage?_eq_some_iff.mp out
    refine ⟨before, reason, after, rfl, rfl, fun other member => ?_⟩
    cases earlier _ member
  · intro records read
    obtain ⟨_, rfl⟩ := RecordRow.records_eq_ok_iff.mp read
    exact RecordRow.forall₂_record? rows
  · intro World reply world other status affected more few many replied repliedMore strewn
    refine ⟨_, serve_findByStatus replied, ?_⟩
    rw [serve_findByStatus repliedMore, strewn.records]

/-- The row of a product's record. -/
def registeredRow : RecordRow :=
  .ofRecord { (default : EventRecord) with eventName := "registered" }

/-- A row with a kind that there is not. -/
def catalogRow : RecordRow :=
  { registeredRow with aggregateType := "CATALOG" }

/-- A row with a list as its metadata. -/
def listedRow : RecordRow :=
  { registeredRow with extraMetadata := .array [.string "not", .string "a", .string "map"] }

/-- A server that brings back the same rows for every statement. -/
def listing (rows : List Row) (_ : Statement) : Reply × List Row :=
  (.ok ⟨0, rows⟩, rows)

/-- The record is found among a row of an unknown kind, a row with a list as its metadata and a row
without columns. A row behind it that is out of reach fails the list. -/
theorem registered_among_bad_rows :
    (∃ records, (serve listing [registeredRow.cells] (.findByStatus .pending)).1 = .ok records ∧
      (serve listing [catalogRow.cells, registeredRow.cells, listedRow.cells, []]
        (.findByStatus .pending)).1 = .ok records) ∧
    ∃ error, RecordRow.records [.ok catalogRow, .ok registeredRow, .error (.storage "reset"),
      .error (.storage "closed")] = .error error := by
  obtain ⟨lists, served⟩ := bad_rows_skipped
  refine ⟨?_, ?_⟩
  · have catalog : Row.IsBad catalogRow.cells := by
      intro raw through
      obtain rfl : catalogRow = raw := Except.ok.inj through
      rfl
    have listed : Row.IsBad listedRow.cells := by
      intro raw through
      obtain rfl : listedRow = raw := Except.ok.inj through
      rfl
    have empty : Row.IsBad [] := by
      intro raw through
      cases through
    exact served (List Row) listing _ _ .pending 0 0 _ _ rfl rfl
      (.add _ catalog (.keep _ (.add _ listed (.add _ empty .nil))))
  · exact (lists _).1.mpr ⟨"reset", by simp⟩

end Outbox.Database
