import Mathlib.Data.Bool.Basic
import Outbox.Proofs.Database.Bound
import Outbox.Proofs.Database.Meaning
import Outbox.Proofs.Order

/-!
# What commands do to the rows of records and deliveries

The tables of the outbox have a row for each record and for each delivery that is remembered. What
the conditions of a command choose among such rows, what its assignments make of them and which
constraints they violate is found out here from the meaning of its parts, so that no proof about
the store has to look into a row again.
-/

namespace Outbox.Database

open Calendar

/-! ## Comparing values -/

/-- Identifiers are known to be equal when they are the same. -/
@[simp]
theorem Datum.equals_uuid (left right : Identifier) :
    (uuid left).equals (uuid right) = decide (left = right) := by
  have sameNumber : (left.number : Int) = right.number ↔ left = right :=
    ⟨fun same => Identifier.mk.injEq .. ▸ Int.natCast_inj.mp same, fun same => by rw [same]⟩
  simp only [equals, comparable, type?, place, List.cons.injEq, and_true, sameNumber]
  simp

/-- Texts are known to be equal when they are the same, character by character. -/
@[simp]
theorem Datum.equals_text (left right : String) :
    (text left).equals (text right) = decide (left = right) := by
  have sameCharacters : left.toList.map (fun character => (character.toNat : Int)) =
      right.toList.map (fun character => (character.toNat : Int)) ↔ left = right := by
    have apart (one other : Char) (same : (one.toNat : Int) = other.toNat) : one = other :=
      Char.toNat_inj.mp (Int.ofNat.inj same)
    rw [List.map_inj_right apart, String.toList_inj]
  simp [equals, comparable, type?, place, sameCharacters]

/-- That two values are equal is true when they are known to be equal. -/
theorem Comparison.equal_true_iff (left right : Datum) :
    equal.truth? left right = some true ↔ left.equals right = true := by
  simp [truth?, relates, Datum.equals]

/-- That two values differ is only false when they are known to be equal. -/
theorem Comparison.equals_of_different_false {left right : Datum}
    (isFalse : different.truth? left right = some false) : left.equals right = true := by
  simpa [truth?, relates, Datum.equals] using isFalse

/-- An earlier moment is less than a later one. -/
theorem Comparison.less_true_iff (left right : Timestamp) :
    less.truth? (.timestamptz left) (.timestamptz right) = some true ↔
      left.before right = true := by
  have inTurn : upTo [right.seconds, right.nanos] [left.seconds, left.nanos] = true ↔
      ¬left.before right = true := by
    rw [Timestamp.before_iff]
    simp only [upTo, Bool.and_true, Bool.or_eq_true, Bool.and_eq_true, decide_eq_true_eq]
    omega
  simp [truth?, relates, Datum.comparable, Datum.type?, Datum.place, ← Bool.not_eq_true, inTurn]

/-- A moment is listed up to another one when it is not later. -/
theorem Datum.place_upTo_iff (left right : Timestamp) :
    upTo (timestamptz left).place (timestamptz right).place = true ↔ left.upTo right = true := by
  rw [Timestamp.upTo_iff]
  simp only [place, upTo, Bool.and_true, Bool.or_eq_true, Bool.and_eq_true, decide_eq_true_eq]
  omega

/-- Identifiers are sorted by their numbers. -/
theorem Datum.sortKey_uuid (identifier : Identifier) :
    (uuid identifier).sortKey = [0, (identifier.number : Int)] := rfl

/-- Moments are sorted by their seconds and then by their nanoseconds. -/
theorem Datum.sortKey_timestamptz (moment : Timestamp) :
    (timestamptz moment).sortKey = [0, moment.seconds, (moment.nanos : Int)] := rfl

/-- The least of some moments is the earliest one, and missing where there are none. The moments may
come in any order, since the earliest one does not depend on it. -/
theorem eq_of_isLeast {values : List Datum} {moments : List Timestamp} {least : Datum}
    (same : values.Perm (moments.map .timestamptz)) (isLeast : IsLeast values least) :
    least = ((MemoryStore.earliest? moments).map Datum.timestamptz).getD .null := by
  have present : (values.filter fun value => value.type? ≠ none).Perm
      (moments.map .timestamptz) := by
    have filtered := same.filter fun value => value.type? ≠ none
    rw [List.filter_map] at filtered
    exact filtered.trans (.of_eq (congrArg _ (List.filter_eq_self.mpr fun _ _ => rfl)))
  rcases isLeast with ⟨nothing, rfl⟩ | ⟨member, first⟩
  · rw [nothing] at present
    rw [List.map_eq_nil_iff.mp present.nil_eq.symm]
    rfl
  · obtain ⟨moment, inside, rfl⟩ := List.mem_map.mp (present.mem_iff.mp member)
    rw [MemoryStore.earliest?_eq_some inside fun other otherInside =>
      (Datum.place_upTo_iff moment other).mp
        (first _ (present.mem_iff.mpr (List.mem_map_of_mem otherInside)))]
    rfl

/-! ## Effects on rows of things -/

section Things

variable {Thing : Type} {cells : Thing → Row} {rows : List Row} {things : List Thing}

/-- The chosen rows are those of the chosen things. -/
theorem perm_filter {choose : Row → Bool} {holds : Thing → Bool}
    (same : rows.Perm (things.map cells))
    (agrees : ∀ thing ∈ things, choose (cells thing) = holds thing) :
    (rows.filter choose).Perm ((things.filter holds).map cells) := by
  have filtered := same.filter choose
  have congruent : things.filter (choose ∘ cells) = things.filter holds := List.filter_congr agrees
  rw [List.filter_map, congruent] at filtered
  exact filtered

/-- As many rows are chosen as things. -/
theorem length_filter_rows {choose : Row → Bool} {holds : Thing → Bool}
    (same : rows.Perm (things.map cells))
    (agrees : ∀ thing ∈ things, choose (cells thing) = holds thing) :
    (rows.filter choose).length = (things.filter holds).length := by
  rw [(perm_filter same agrees).length_eq, List.length_map]

/-- The changed rows are counted. -/
@[simp]
theorem Effect.affected_changing (rows : List Row) (choose : Row → Bool) (change : Row → Row) :
    (Effect.changing rows choose change).affected = (rows.filter choose).length := by
  simp [affected, changing]

/-- The removed rows are counted. -/
@[simp]
theorem Effect.affected_removing (rows : List Row) (choose : Row → Bool) :
    (Effect.removing rows choose).affected = (rows.filter choose).length := by
  simp [affected, removing]

/-- Changing the chosen rows changes each row where it is, apart from the order of the rows. An
effect puts the changed rows behind those that are left alone. -/
theorem Effect.rows_changing (rows : List Row) (choose : Row → Bool) (change : Row → Row) :
    (Effect.changing rows choose change).rows.Perm
      (rows.map fun row => if choose row then change row else row) := by
  have others : (rows.filter fun row => !choose row).map
      (fun row => if choose row then change row else row) = rows.filter fun row => !choose row := by
    refine (List.map_congr_left fun row inside => ?_).trans (List.map_id _)
    rw [if_neg (by simpa using (List.mem_filter.mp inside).2)]
    rfl
  have changed : (rows.filter choose).map (fun row => if choose row then change row else row) =
      (rows.filter choose).map change :=
    List.map_congr_left fun row inside => if_pos (List.mem_filter.mp inside).2
  have parted := (List.filter_append_perm choose rows).map
    fun row => if choose row then change row else row
  rw [List.map_append, others, changed] at parted
  refine List.Perm.trans ?_ parted
  rw [Effect.rows, changing, List.map_map]
  exact List.perm_append_comm

/-- When rows are changed, the rows afterwards are those of the changed things and the others. -/
theorem perm_changing {choose : Row → Bool} {holds : Thing → Bool} {change : Row → Row}
    {next : Thing → Thing} (same : rows.Perm (things.map cells))
    (agrees : ∀ thing ∈ things, choose (cells thing) = holds thing)
    (changed : ∀ thing, holds thing = true → change (cells thing) = cells (next thing)) :
    (Effect.changing rows choose change).rows.Perm
      ((things.map fun thing => if holds thing then next thing else thing).map cells) := by
  refine (Effect.rows_changing rows choose change).trans ((same.map _).trans (.of_eq ?_))
  rw [List.map_map, List.map_map]
  refine List.map_congr_left fun thing member => ?_
  rw [Function.comp_apply, Function.comp_apply, agrees thing member]
  split
  · next held => exact changed thing held
  · rfl

/-- When rows are removed, the rows of the other things are left. -/
theorem perm_removing {choose : Row → Bool} {holds : Thing → Bool}
    (same : rows.Perm (things.map cells))
    (agrees : ∀ thing ∈ things, choose (cells thing) = holds thing) :
    (Effect.removing rows choose).rows.Perm
      ((things.filter fun thing => !holds thing).map cells) := by
  rw [Effect.rows, Effect.removing, List.map_nil, List.append_nil]
  exact perm_filter same fun thing member => congrArg not (agrees thing member)

end Things

/-! ## Constraints -/

/-- A row has a value of the declared type in every column of a table, and no check of a column is
false. What is declared of the values of other rows, keys and references, is left out here. -/
structure TableName.Admits (table : TableName) (row : Row) : Prop where
  typed : ∀ column ∈ table.columns, (row.value column.name).type? = some column.type
  checked : ∀ condition ∈ table.columns.filterMap Column.check,
    condition.truth? ⟨[], row, []⟩ ≠ some false

/-- Whether a column is about other rows. -/
def Column.looksAround (column : Column) : Bool := column.isKey || column.reference.isSome

/-- A value is known to equal itself unless its type has no order. -/
theorem Datum.equals_self {datum : Datum} {type : ColumnType} (typed : datum.type? = some type)
    (ordered : type ≠ .jsonb) : datum.equals datum = true := by
  simp [equals, comparable, typed, ordered]

/-- Keys have an order. -/
theorem TableName.type_of_isKey (table : TableName) :
    ∀ column ∈ table.columns, column.isKey = true → column.type ≠ .jsonb := by
  cases table <;> decide

namespace Effect

variable {effect : Effect} {content : Content} {table : TableName} {version : Version}
variable {column : Column} {rows : List Row}

/-- An admitted row violates nothing but what is declared of other rows. -/
theorem breaks_of_admits (admits : table.Admits version.after) (member : column ∈ table.columns)
    {violation : Violation} (broken : effect.breaks content version column violation = true) :
    violation = .repeated ∨ violation = .dangling := by
  have typed := admits.typed column member
  cases violation with
  | missing => simp [breaks, typed] at broken
  | mistyped => simp [breaks, typed] at broken
  | unchecked =>
    rw [breaks, Option.any_eq_true] at broken
    obtain ⟨condition, declared, isFalse⟩ := broken
    exact absurd (of_decide_eq_true isFalse)
      (admits.checked condition (List.mem_filterMap.mpr ⟨column, member, declared⟩))
  | repeated => exact .inl rfl
  | dangling => exact .inr rfl

/-- Changing rows into admitted ones is allowed when keys and references stay. A constraint on one
row holds by admission, and one that looks around is not asked when its column is not set. -/
theorem allowed_changing {choose : Row → Bool} {change : Row → Row}
    (admits : ∀ row ∈ rows, choose row = true → table.Admits (change row))
    (stays : ∀ row ∈ rows, choose row = true → ∀ column ∈ table.columns,
      column.looksAround = true →
        (row.value column.name).equals ((change row).value column.name) = true)
    (violation : Violation) :
    (changing rows choose change).violates content table violation = false := by
  rw [violates, List.any_eq_false]
  intro version changed
  obtain ⟨row, inside, rfl⟩ := List.mem_map.mp changed
  obtain ⟨member, isChosen⟩ := List.mem_filter.mp inside
  rw [Bool.not_eq_true, List.any_eq_false]
  intro column declared broken
  have kept : column.looksAround = true → Version.sets ⟨some row, change row⟩ column.name = false :=
    fun around => congrArg not (stays row member isChosen column declared around)
  rcases breaks_of_admits (admits row member isChosen) declared broken with rfl | rfl
  · rw [breaks, Bool.and_eq_true, Bool.and_eq_true] at broken
    rw [kept (by simp [Column.looksAround, broken.1])] at broken
    cases broken.2.1
  · rw [breaks, Option.any_eq_true] at broken
    obtain ⟨reference, refers, isSet⟩ := broken
    rw [kept (by simp [Column.looksAround, refers])] at isSet
    cases isSet

/-- Adding an admitted row that refers to rows that there are violates nothing but a key, and that
one exactly when another row has the same. -/
theorem violates_adding {new : Row} (admits : table.Admits new)
    (founded : ∀ column ∈ table.columns, ∀ reference ∈ column.reference,
      ∃ row ∈ content reference.table,
        (row.value reference.column).equals (new.value column.name) = true)
    (violation : Violation) :
    (adding rows new).violates content table violation = true ↔
      violation = .repeated ∧ ∃ column ∈ table.columns, column.isKey = true ∧
        ∃ row ∈ rows, (row.value column.name).equals (new.value column.name) = true := by
  have alone (column : Column) (declared : column ∈ table.columns) (isKey : column.isKey = true) :
      1 < (adding rows new).rows.countP (fun row =>
        (row.value column.name).equals (new.value column.name)) ↔
        ∃ row ∈ rows, (row.value column.name).equals (new.value column.name) = true := by
    have self := Datum.equals_self (admits.typed column declared)
      (table.type_of_isKey column declared isKey)
    rw [Effect.rows, List.countP_append]
    simp [adding, self, List.countP_pos_iff]
  have spelled : (adding rows new).violates content table violation = true ↔
      ∃ column ∈ table.columns,
        (adding rows new).breaks content ⟨none, new⟩ column violation = true := by
    simp [violates, adding]
  rw [spelled]
  constructor
  · rintro ⟨column, declared, broken⟩
    rcases breaks_of_admits admits declared broken with rfl | rfl
    · rw [breaks, Bool.and_eq_true, Bool.and_eq_true, decide_eq_true_eq] at broken
      exact ⟨rfl, column, declared, broken.1, (alone column declared broken.1).mp broken.2.2⟩
    · rw [breaks, Option.any_eq_true] at broken
      obtain ⟨reference, refers, missing⟩ := broken
      have found : (content reference.table).any (fun row =>
          (row.value reference.column).equals (new.value column.name)) = true :=
        List.any_eq_true.mpr (founded column declared reference refers)
      rw [found] at missing
      cases missing
  · rintro ⟨rfl, column, declared, isKey, taken⟩
    refine ⟨column, declared, ?_⟩
    rw [breaks, isKey, decide_eq_true ((alone column declared isKey).mpr taken)]
    rfl

end Effect

/-! ## The tables of the outbox -/

/-- Both tables of the outbox have one key. -/
theorem TableName.exists_key_iff {table : TableName} (outbox : table ≠ .categories)
    (condition : String → Prop) :
    (∃ column ∈ table.columns, column.isKey = true ∧ condition column.name) ↔
      condition "event_id" := by
  cases table with
  | categories => exact absurd rfl outbox
  | events | deliveries => simp [columns]

/-- Nothing but the key is about other rows. -/
theorem TableName.name_of_looksAround {table : TableName} (outbox : table ≠ .categories) :
    ∀ column ∈ table.columns, column.looksAround = true → column.name = "event_id" := by
  cases table with
  | categories => exact absurd rfl outbox
  | events | deliveries => decide

/-- Changing the rows of things is allowed when they are admitted afterwards and keep their
identifiers. -/
theorem Effect.allowed_changing_things {Thing : Type} {cells : Thing → Row} {rows : List Row}
    {things : List Thing} {choose : Row → Bool} {holds : Thing → Bool} {change : Row → Row}
    {next : Thing → Thing} {table : TableName} (outbox : table ≠ .categories) (content : Content)
    (same : rows.Perm (things.map cells))
    (agrees : ∀ thing ∈ things, choose (cells thing) = holds thing)
    (changed : ∀ thing, holds thing = true → change (cells thing) = cells (next thing))
    (admits : ∀ thing ∈ things, holds thing = true → table.Admits (cells (next thing)))
    (stays : ∀ thing ∈ things, holds thing = true →
      ((cells thing).value "event_id").equals ((cells (next thing)).value "event_id") = true)
    (violation : Violation) :
    (Effect.changing rows choose change).violates content table violation = false := by
  have after : ∀ row ∈ rows, choose row = true → ∃ thing ∈ things, holds thing = true ∧
      row = cells thing ∧ change row = cells (next thing) := by
    intro row inside isChosen
    obtain ⟨thing, member, rfl⟩ := List.mem_map.mp (same.mem_iff.mp inside)
    have held : holds thing = true := agrees thing member ▸ isChosen
    exact ⟨thing, member, held, rfl, changed thing held⟩
  refine allowed_changing (fun row inside isChosen => ?_) (fun row inside isChosen => ?_) violation
  · obtain ⟨thing, member, held, _, changes⟩ := after row inside isChosen
    rw [changes]
    exact admits thing member held
  · obtain ⟨thing, member, held, is, changes⟩ := after row inside isChosen
    intro column declared around
    rw [TableName.name_of_looksAround outbox column declared around, changes, is]
    exact stays thing member held

/-- An effect that removes no row has no effect on other tables. -/
theorem Effect.applied_of_removed_nil {effect : Effect} (nothing : effect.removed = [])
    (content : Content) {table other : TableName} (different : other ≠ table) :
    effect.applied content table other = content other := by
  rw [applied, if_neg different, nothing]
  refine List.filter_eq_self.mpr fun row _ => ?_
  simp [TableName.refersTo]

/-! ## Rows of records -/

/-- A status is known by its written form. -/
theorem text_inj (left right : EventStatus) : left.text = right.text ↔ left = right := by
  cases left <;> cases right <;> decide

namespace RecordRow

/-- The row that the table has of a record. -/
def written (record : EventRecord) : Row := (ofRecord record).cells

/-- The identifier of a record in its row. -/
@[simp]
theorem value_event_id (record : EventRecord) :
    (written record).value "event_id" = .uuid record.id := rfl

/-- The status of a record is stored by its name. -/
@[simp]
theorem value_status (record : EventRecord) :
    (written record).value "status" = .text record.status.text := rfl

/-- The name of an event in its row. -/
@[simp]
theorem value_event_name (record : EventRecord) :
    (written record).value "event_name" = .text record.eventName := rfl

/-- The creation of a record in its row, as a column holds moments. -/
@[simp]
theorem value_created (record : EventRecord) :
    (written record).value "created" = .ofMoment record.created := rfl

/-- The last change of a record in its row, as a column holds moments. -/
@[simp]
theorem value_updated (record : EventRecord) :
    (written record).value "updated" = .ofMoment record.updated := rfl

/-- The table of records admits the row of every record that has a name. -/
theorem admits_written {record : EventRecord} (named : record.eventName ≠ "") :
    TableName.events.Admits (written record) := by
  refine ⟨List.map_inj_left.mp rfl, ?_⟩
  have checks : TableName.events.columns.filterMap Column.check =
      [.isOneOf (.column "status") (EventStatus.all.map .status),
        .compare (.column "event_name") .different (.literal .emptyText)] := rfl
  rw [checks, List.forall_mem_cons, List.forall_mem_singleton]
  constructor
  · rw [Condition.truth?, Term.value, value_status]
    generalize record.status = status
    cases status <;> decide
  · intro isFalse
    have empty := Comparison.equals_of_different_false isFalse
    rw [Term.value, Term.value, value_event_name, Literal.datum, Datum.equals_text] at empty
    exact named (of_decide_eq_true empty)

/-- What a change of status makes of a row. -/
theorem assign_status (record : EventRecord) (event : Identifier) (status : EventStatus)
    (moment : Timestamp) (former : Datum) :
    assign ⟨[.uuid event, .text status.text, .ofMoment moment, former], written record, []⟩
      [⟨"status", .parameter 2⟩, ⟨"updated", .parameter 3⟩] =
        written { record with status, updated := moment } := rfl

/-- A row is listed as it is. -/
theorem pick_written (record : EventRecord) : Row.pick columns (written record) = written record :=
  rfl

section Conditions

variable (record : EventRecord) (event : Identifier) (status : EventStatus)

/-- A row is chosen by its identifier. -/
theorem chosen_event :
    chosen [.uuid event] [.compare (.column "event_id") .equal (.parameter 1)] (written record) =
      decide (record.id = event) := by
  simp [chosen, Condition.truth?, Term.value, Comparison.equal_true_iff]

/-- A row is chosen by its status, which is sent as a parameter. -/
theorem chosen_status :
    chosen [.text status.text] [.compare (.column "status") .equal (.parameter 1)]
      (written record) = decide (record.status = status) := by
  simp [chosen, Condition.truth?, Term.value, Comparison.equal_true_iff, text_inj]

/-- A row is chosen by a status that is written into the command. -/
theorem chosen_literal :
    chosen [] [.compare (.column "status") .equal (.literal (.status status))] (written record) =
      decide (record.status = status) := by
  simp [chosen, Condition.truth?, Term.value, Comparison.equal_true_iff, text_inj, Literal.datum]

/-- A row is chosen by its identifier and its status. -/
theorem chosen_event_status (second third : Datum) :
    chosen [.uuid event, second, third, .text status.text]
      [.compare (.column "event_id") .equal (.parameter 1),
        .compare (.column "status") .equal (.parameter 4)] (written record) =
      (record.id = event && record.status = status) := by
  simp [chosen, Condition.truth?, Term.value, Comparison.equal_true_iff, text_inj]

/-- A row is chosen by its status and the time of its last change. -/
theorem chosen_expired {before : Timestamp} (fits : Fits record) (whole : before.InMicros) :
    chosen [.text status.text, .ofMoment before]
      [.compare (.column "status") .equal (.parameter 1),
        .compare (.column "updated") .less (.parameter 2)] (written record) =
      MemoryStore.expired status before record := by
  simp [chosen, Condition.truth?, Term.value, Comparison.equal_true_iff, text_inj, Datum.ofMoment,
    Timestamp.wholeMicros_of_inMicros fits.2, Timestamp.wholeMicros_of_inMicros whole,
    Comparison.less_true_iff, MemoryStore.expired]

end Conditions

/-- Rows that are listed by the time of their creation and then by their identifiers are in the
order of delivery. -/
theorem not_before_of_upTo {left right : EventRecord} (leftFits : Fits left)
    (rightFits : Fits right)
    (inTurn : Row.upTo [⟨"created", true⟩, ⟨"event_id", true⟩] (written left) (written right) =
      true) : (!right.before left) = true := by
  rw [Bool.not_eq_true', Bool.eq_false_iff, ne_eq, EventRecord.before_iff]
  simp only [Row.upTo, value_created, value_event_id, Datum.ofMoment,
    Timestamp.wholeMicros_of_inMicros leftFits.1, Timestamp.wholeMicros_of_inMicros rightFits.1,
    Datum.sortKey_timestamptz, Datum.sortKey_uuid, upTo, List.cons.injEq] at inTurn
  grind

end RecordRow

/-! ## Rows of deliveries -/

namespace DeliveryRow

/-- The identifier of the record of a delivery in its row. -/
@[simp]
theorem value_event_id (delivery : Delivery) :
    (cells delivery).value "event_id" = .uuid delivery.event := rfl

/-- The mark of a parked delivery in its row. -/
@[simp]
theorem value_parked (delivery : Delivery) :
    (cells delivery).value "parked" = .bool delivery.parked := rfl

/-- The number of attempts in the row of a delivery, where a column of four bytes has room for it.
-/
@[simp]
theorem value_attempts (delivery : Delivery) :
    (cells delivery).value "attempts" = .int4 (min delivery.attempts mostAttempts) := rfl

/-- The table of deliveries admits the row of every delivery. -/
theorem admits_cells (delivery : Delivery) : TableName.deliveries.Admits (cells delivery) := by
  refine ⟨List.map_inj_left.mp rfl, ?_⟩
  have checks : TableName.deliveries.columns.filterMap Column.check =
      [.compare (.column "attempts") .atLeast (.literal .zero)] := rfl
  rw [checks, List.forall_mem_singleton]
  intro isFalse
  simp [Condition.truth?, Term.value, Literal.datum, Comparison.truth?, Comparison.relates,
    Datum.comparable, Datum.type?, Datum.place, upTo] at isFalse
  omega

/-- A row in the way of another one becomes that row. -/
theorem assign_excluded {former delivery : Delivery} (same : former.event = delivery.event)
    (parameters : List Datum) :
    assign ⟨parameters, cells former, cells delivery⟩
      (columns.tail.map fun column => ⟨column, .excluded column⟩) = cells delivery := by
  have inPlace : assign ⟨parameters, cells former, cells delivery⟩
      (columns.tail.map fun column => ⟨column, .excluded column⟩) =
        cells { delivery with event := former.event } := rfl
  rw [inPlace, same]

/-- What a requeue makes of a row. -/
theorem assign_requeued (delivery : Delivery) (event : Identifier) (now : Timestamp) :
    assign ⟨[.uuid event, .ofMoment now], cells delivery, []⟩
      [⟨"parked", .literal .falsity⟩, ⟨"attempts", .literal .zero⟩,
        ⟨"next_attempt_at", .parameter 2⟩] = cells (delivery.requeued now) := rfl

/-- A row is listed as it is. -/
theorem pick_cells (delivery : Delivery) : Row.pick columns (cells delivery) = cells delivery :=
  rfl

section Conditions

variable (delivery : Delivery) (event : Identifier)

/-- A row is chosen by its identifier. -/
theorem chosen_event :
    chosen [.uuid event] [.compare (.column "event_id") .equal (.parameter 1)] (cells delivery) =
      decide (delivery.event = event) := by
  simp [chosen, Condition.truth?, Term.value, Comparison.equal_true_iff]

/-- A row is chosen when the delivery is parked. -/
theorem chosen_parked :
    chosen [] [.holds (.column "parked")] (cells delivery) = delivery.parked := by
  simp [chosen, Condition.truth?, Term.value]

/-- A row is chosen by its identifier when the delivery is parked. -/
theorem chosen_event_parked (second : Datum) :
    chosen [.uuid event, second]
      [.compare (.column "event_id") .equal (.parameter 1), .holds (.column "parked")]
        (cells delivery) = (delivery.event = event && delivery.parked) := by
  simp [chosen, Condition.truth?, Term.value, Comparison.equal_true_iff]

end Conditions

/-- A delivery belongs to the record with its identifier. -/
theorem refersTo_cells (delivery : Delivery) (removed : List Row) :
    TableName.deliveries.refersTo .events removed (cells delivery) =
      removed.any fun row => (row.value "event_id").equals (.uuid delivery.event) := by
  simp [TableName.refersTo, TableName.columns]

/-- Rows that are listed by their identifiers are in their order. -/
theorem number_le_of_upTo {left right : Delivery}
    (inTurn : Row.upTo [⟨"event_id", false⟩] (cells left) (cells right) = true) :
    left.event.number ≤ right.event.number := by
  simp only [Row.upTo, value_event_id, Datum.sortKey_uuid, upTo, List.cons.injEq] at inTurn
  grind

end DeliveryRow

end Outbox.Database
