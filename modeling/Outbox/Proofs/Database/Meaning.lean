import Mathlib.Data.List.Perm.Basic
import Outbox.Database.Conversation

/-!
# The meaning of commands

What commands mean is said of their parts: of terms, conditions and assignments over a row, of the
rows that a condition chooses, and of the constraints that the declared columns of a table put on
the rows in it. It is the ordinary meaning of SQL. A condition on a missing value is neither true
nor false, and chooses no row. Rows have no order except where a command asks for one. A command
that would leave a row in violation of a constraint changes nothing at all.

`Command.Outcome` says which replies a command may get and which rows there may be afterwards.
Nothing here knows of the statements of this program.
-/

namespace Outbox.Database

open Calendar

/-! ## Values -/

/-- Whether a list does not come after another one: at the first place where they differ its number
is the smaller one, or it is the beginning of the other one. -/
def upTo : List Int → List Int → Bool
  | [], _ => true
  | _ :: _, [] => false
  | left :: lefts, right :: rights => left < right || left = right && upTo lefts rights

namespace Datum

/-- Where a value stands among those of its type: what is compared first, then what is compared
next. Texts are compared by their characters; nothing is said of the order of documents. -/
def place : Datum → List Int
  | null => []
  | uuid identifier => [identifier.number]
  | text content => content.toList.map fun character => character.toNat
  | jsonb _ => []
  | timestamptz moment => [moment.seconds, moment.nanos]
  | int4 amount => [amount]
  | int8 amount => [amount]
  | bool truth => [if truth then 1 else 0]

/-- Whether two values can be compared. None of them is missing, and they are of one type that has
an order. -/
def comparable (left right : Datum) : Bool :=
  left.type? = right.type? && (left.type? ≠ none && left.type? ≠ some .jsonb)

/-- Whether two values are known to be equal. -/
def equals (left right : Datum) : Bool :=
  left.comparable right && left.place = right.place

/-- Missing values come last, and others as they stand among those of their type. -/
def sortKey (value : Datum) : List Int :=
  if value.type? = none then [1] else 0 :: value.place

end Datum

/-- Whether a comparison holds of values that stand at some places. -/
def Comparison.relates (comparison : Comparison) (left right : List Int) : Bool :=
  match comparison with
  | equal => left = right
  | different => left ≠ right
  | less => !upTo right left
  | atLeast => upTo right left

/-- Whether a comparison of two values is true, which is unknown of values that cannot be
compared. -/
def Comparison.truth? (comparison : Comparison) (left right : Datum) : Option Bool :=
  if left.comparable right then some (comparison.relates left.place right.place) else none

/-! ## Conditions on rows -/

/-- The value in a column, a missing one when the row has no such column. -/
def Row.value (row : Row) (column : String) : Datum := (row.find? column).getD .null

/-- What the terms of a command are taken from. -/
structure Scope where
  parameters : List Datum
  row : Row
  /-- The row that was to be inserted. -/
  excluded : Row

/-- The value of a term. -/
def Term.value (scope : Scope) : Term → Datum
  | parameter number => (scope.parameters[number - 1]?).getD .null
  | column name => scope.row.value name
  | excluded name => scope.excluded.value name
  | literal value => value.datum

/-- Whether a condition is true, if that is known. A value is one of several when it is known to be
equal to one of them, and is none of them when it is known to differ from all. -/
def Condition.truth? (scope : Scope) : Condition → Option Bool
  | compare left comparison right => comparison.truth? (left.value scope) (right.value scope)
  | holds term =>
    match term.value scope with
    | .bool truth => some truth
    | _ => none
  | isOneOf term choices =>
    let answers := choices.map fun choice =>
      Comparison.equal.truth? (term.value scope) choice.datum
    if answers.contains (some true) then some true
    else if answers.contains none then none
    else some false

/-- Whether conditions choose a row: all of them are true. -/
def chosen (parameters : List Datum) (among : List Condition) (row : Row) : Bool :=
  among.all fun condition => condition.truth? ⟨parameters, row, []⟩ = some true

/-- The row of a scope with the assigned values in its columns. -/
def assign (scope : Scope) (assignments : List Assignment) : Row :=
  scope.row.map fun cell =>
    match assignments.find? fun assignment => assignment.column = cell.1 with
    | none => cell
    | some assignment => (cell.1, assignment.value.value scope)

/-! ## What is written -/

/-- The rows of all tables. -/
abbrev Content := TableName → List Row

/-- Tables have the same rows, in whatever order. -/
def Content.Same (left right : Content) : Prop :=
  ∀ table, (left table).Perm (right table)

/-- Every content has its own rows. -/
theorem Content.Same.refl (content : Content) : content.Same content :=
  fun _ => .refl _

/-- The row that is to be inserted. A column for which no value is given gets its default, or
else none. -/
def TableName.filled (table : TableName) (given : Row) : Row :=
  table.columns.map fun column =>
    (column.name, (given.find? column.name).getD (column.default.elim .null Literal.datum))

/-- A row as a command leaves it, and as it was if it was there before. -/
structure Version where
  before? : Option Row
  after : Row

/-- Whether a column has another value than before, or has its first one. -/
def Version.sets (version : Version) (column : String) : Bool :=
  match version.before? with
  | none => true
  | some row => !(row.value column).equals (version.after.value column)

/-- What a command does to the rows of a table. -/
structure Effect where
  /-- The rows that it leaves as they are. -/
  kept : List Row
  versions : List Version
  removed : List Row

namespace Effect

/-- The rows that the table has afterwards. -/
def rows (effect : Effect) : List Row := effect.kept ++ effect.versions.map Version.after

/-- The number of rows that are new, changed or gone. -/
def affected (effect : Effect) : Nat := effect.versions.length + effect.removed.length

/-- A row is added to others. -/
def adding (rows : List Row) (new : Row) : Effect := ⟨rows, [⟨none, new⟩], []⟩

/-- Some rows are changed. -/
def changing (rows : List Row) (choose : Row → Bool) (change : Row → Row) : Effect where
  kept := rows.filter fun row => !choose row
  versions := (rows.filter choose).map fun row => ⟨some row, change row⟩
  removed := []

/-- Some rows are removed. -/
def removing (rows : List Row) (choose : Row → Bool) : Effect :=
  ⟨rows.filter fun row => !choose row, [], rows.filter choose⟩

end Effect

namespace Command

/-- The effect of an insertion. When a row has the same value in a column that is asked about, that
row is changed instead. -/
def insertion (parameters : List Datum) (rows : List Row) (proposed : Row) :
    Option Conflict → Effect
  | none => .adding rows proposed
  | some conflict =>
    let inTheWay (row : Row) := (row.value conflict.column).equals (proposed.value conflict.column)
    if rows.any inTheWay then
      .changing rows inTheWay fun row => assign ⟨parameters, row, proposed⟩ conflict.assignments
    else .adding rows proposed

/-- The table that a command writes to and what it does to the rows in it, if it writes at all. -/
def effect? (content : Content) (parameters : List Datum) : Command → Option (TableName × Effect)
  | insert table columns conflict =>
    some (table, insertion parameters (content table) (table.filled (columns.zip parameters))
      conflict)
  | update table assignments among =>
    some (table, .changing (content table) (chosen parameters among) fun row =>
      assign ⟨parameters, row, []⟩ assignments)
  | delete table among => some (table, .removing (content table) (chosen parameters among))
  | _ => none

end Command

/-! ## Constraints -/

/-- How a row can be in violation of what is declared of a column. -/
inductive Violation
  /-- The value is missing. -/
  | missing
  | mistyped
  /-- The check of the column is false. -/
  | unchecked
  /-- Another row has the same key. -/
  | repeated
  /-- There is no row like the one that is referred to. -/
  | dangling
  deriving DecidableEq, Repr

namespace Violation

/-- All kinds of violations. -/
def all : List Violation := [missing, mistyped, unchecked, repeated, dangling]

/-- The code that the server reports. -/
def code : Violation → String
  | missing => "23502"
  | mistyped => "42804"
  | unchecked => Failure.checkViolation
  | repeated => Failure.uniqueViolation
  | dangling => "23503"

end Violation

/-- Whether a version of a row violates what is declared of a column of its table, in some way.
Whether the key is another row's and whether there is the row that is referred to is only asked of
new values. -/
def Effect.breaks (effect : Effect) (content : Content) (version : Version) (column : Column) :
    Violation → Bool
  | .missing => (version.after.value column.name).type? = none
  | .mistyped => (version.after.value column.name).type? ≠ none &&
      (version.after.value column.name).type? ≠ some column.type
  | .unchecked => column.check.any fun condition =>
      condition.truth? ⟨[], version.after, []⟩ = some false
  | .repeated => column.isKey && (version.sets column.name &&
      1 < effect.rows.countP fun row =>
        (row.value column.name).equals (version.after.value column.name))
  | .dangling => column.reference.any fun reference => version.sets column.name &&
      !(content reference.table).any fun row =>
        (row.value reference.column).equals (version.after.value column.name)

/-- Whether an effect on a table violates its declaration in some way. -/
def Effect.violates (effect : Effect) (content : Content) (table : TableName)
    (violation : Violation) : Bool :=
  effect.versions.any fun version => table.columns.any fun column =>
    effect.breaks content version column violation

/-- Whether a row refers to one of those that are removed from a table. -/
def TableName.refersTo (referring : TableName) (table : TableName) (removed : List Row)
    (row : Row) : Bool :=
  referring.columns.any fun column => column.reference.any fun reference =>
    reference.table = table && removed.any fun gone =>
      (gone.value reference.column).equals (row.value column.name)

/-- The rows of all tables after an effect on one of them. What refers to a removed row goes with
it. No table refers to one that refers to another one, so that this is done once. -/
def Effect.applied (effect : Effect) (content : Content) (table : TableName) :
    Content := fun other =>
  if other = table then effect.rows
  else (content other).filter fun row => !other.refersTo table effect.removed row

/-! ## What is listed -/

/-- The columns of a row that are asked for. -/
def Row.pick (columns : List String) (row : Row) : Row :=
  columns.map fun column => (column, row.value column)

/-- Whether a row may be listed before another one. The first sorting decides, and where it finds
no difference the next one. -/
def Row.upTo : List Sorting → Row → Row → Bool
  | [], _, _ => true
  | sorting :: order, left, right =>
    let leftKey := (left.value sorting.column).sortKey
    let rightKey := (right.value sorting.column).sortKey
    if leftKey = rightKey then Row.upTo order left right else Database.upTo leftKey rightKey

/-- The least of some values is one of those that are not missing, or null when all of them are. -/
def IsLeast (values : List Datum) (least : Datum) : Prop :=
  let present := values.filter fun value => value.type? ≠ none
  present = [] ∧ least = .null ∨
    least ∈ present ∧ ∀ value ∈ present, upTo least.place value.place = true

/-- What a summary says of the rows that it chooses. -/
def Summary.Gives (parameters : List Datum) (rows : List Row) (summary : Summary)
    (value : Datum) : Prop :=
  match summary.aggregate with
  | .count => value = .int8 (rows.countP (chosen parameters summary.among))
  | .least column =>
    IsLeast ((rows.filter (chosen parameters summary.among)).map (·.value column)) value

/-! ## Replies -/

/-- The replies that a command may get, and the rows that there may be afterwards. A command that
writes is carried out, or refused for one of the violations that it would bring about. Others leave
the rows alone. The number of rows is only said of what writes. -/
inductive Command.Outcome (content : Content) (parameters : List Datum) :
    Command → Reply → Content → Prop
  | written {command : Command} {table : TableName} {effect : Effect} {after : Content}
      (does : command.effect? content parameters = some (table, effect))
      (allowed : ∀ violation, effect.violates content table violation = false)
      (same : after.Same (effect.applied content table)) :
      Outcome content parameters command (.ok ⟨effect.affected, []⟩) after
  | refused {command : Command} {table : TableName} {effect : Effect} {after : Content}
      (does : command.effect? content parameters = some (table, effect)) (violation : Violation)
      (violated : effect.violates content table violation = true) (reason : String)
      (same : after.Same content) :
      Outcome content parameters command (.error (.refused (some violation.code) reason)) after
  | selected {table : TableName} {columns : List String} {among : List Condition}
      {order : List Sorting} {rows : List Row} {after : Content} (affected : Nat)
      (perm : rows.Perm ((content table).filter (chosen parameters among)))
      (ordered : rows.Pairwise fun left right => left.upTo order right = true)
      (same : after.Same content) :
      Outcome content parameters (.select table columns among order)
        (.ok ⟨affected, rows.map (Row.pick columns)⟩) after
  | summarized {table : TableName} {summaries : List Summary} {values : List Datum}
      {after : Content} (affected : Nat)
      (gives : List.Forall₂ (Summary.Gives parameters (content table)) summaries values)
      (same : after.Same content) :
      Outcome content parameters (.summarize table summaries)
        (.ok ⟨affected, [(summaries.map Summary.name).zip values]⟩) after

end Outbox.Database
