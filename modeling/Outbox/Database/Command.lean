import Outbox.Database.Row
import Outbox.Record

/-!
# Commands

What the server is asked to do, in the words of its language: which table is meant, which columns
take which values, which rows are chosen, and in which order they are listed. A command names the
parameters that are sent with it by their numbers. Its text is written from its parts, and so is the
text that creates the tables, from the columns that they have.
-/

namespace Outbox.Database

/-- Parts of a text with commas between them. -/
def listed (parts : List String) : String := ", ".intercalate parts

/-! ## Terms and conditions -/

/-- The tables: records, what is remembered of their deliveries, and the names of product
categories. -/
inductive TableName
  | events
  | deliveries
  | categories
  deriving DecidableEq, Repr

/-- The name of a table. -/
def TableName.text : TableName → String
  | events => "outbox_events"
  | deliveries => "outbox_delivery"
  | categories => "product_categories"

/-- A value that is written into the text. -/
inductive Literal
  | status (value : EventStatus)
  | emptyText
  /-- A document without members. -/
  | emptyDocument
  | zero
  | falsity
  deriving DecidableEq, Repr

namespace Literal

/-- The text of a literal. -/
def text : Literal → String
  | status value => "'" ++ value.text ++ "'"
  | emptyText => "''"
  | emptyDocument => "'\x7b\x7d'::jsonb"
  | zero => "0"
  | falsity => "FALSE"

/-- The value that a literal stands for. -/
def datum : Literal → Datum
  | status value => .text value.text
  | emptyText => .text ""
  | emptyDocument => .jsonb (.object [])
  | zero => .int4 0
  | falsity => .bool false

end Literal

/-- What a value is taken from. -/
inductive Term
  /-- A parameter of the command. They count from one. -/
  | parameter (number : Nat)
  | column (name : String)
  /-- The column of a row that was to be inserted while another one was in its way. -/
  | excluded (name : String)
  | literal (value : Literal)
  deriving DecidableEq, Repr

/-- The text of a term. -/
def Term.text : Term → String
  | parameter number => "$" ++ toString number
  | column name => name
  | excluded name => "EXCLUDED." ++ name
  | literal value => value.text

/-- How two values are compared. -/
inductive Comparison
  | equal
  | different
  | less
  | atLeast
  deriving DecidableEq, Repr

/-- The sign of a comparison. -/
def Comparison.text : Comparison → String
  | equal => "="
  | different => "<>"
  | less => "<"
  | atLeast => ">="

/-- What is asked of a row. -/
inductive Condition
  | compare (left : Term) (comparison : Comparison) (right : Term)
  /-- A truth value is true. -/
  | holds (term : Term)
  | isOneOf (term : Term) (choices : List Literal)
  deriving DecidableEq, Repr

/-- The text of a condition. -/
def Condition.text : Condition → String
  | compare left comparison right => left.text ++ " " ++ comparison.text ++ " " ++ right.text
  | holds term => term.text
  | isOneOf term choices => term.text ++ " IN (" ++ listed (choices.map Literal.text) ++ ")"

/-- The clause that chooses rows, if anything is asked of them. -/
def whereClause : List Condition → List String
  | [] => []
  | conditions => ["WHERE " ++ " AND ".intercalate (conditions.map Condition.text)]

/-- Clauses behind one another. -/
def clauses (parts : List String) : String := " ".intercalate parts

/-- A column gets a value. -/
structure Assignment where
  column : String
  value : Term
  deriving DecidableEq, Repr

/-- The text of an assignment. -/
def Assignment.text (assignment : Assignment) : String :=
  assignment.column ++ " = " ++ assignment.value.text

/-- Rows are listed by the values of a column, small ones first. -/
structure Sorting where
  column : String
  /-- Whether the text says that small ones come first, as they do anyway. -/
  isExplicit : Bool
  deriving DecidableEq, Repr

/-- The text of a sorting. -/
def Sorting.text (sorting : Sorting) : String :=
  if sorting.isExplicit then sorting.column ++ " ASC" else sorting.column

/-- The clause that orders rows, if they are to be in order. -/
def orderClause : List Sorting → List String
  | [] => []
  | order => ["ORDER BY " ++ listed (order.map Sorting.text)]

/-- What is made of a number of rows. -/
inductive Aggregate
  | count
  /-- The least value of a column. -/
  | least (column : String)
  deriving DecidableEq, Repr

/-- The text of an aggregate. -/
def Aggregate.text : Aggregate → String
  | count => "COUNT(*)"
  | least column => "MIN(" ++ column ++ ")"

/-- A column of the only row that a summary of a table has. -/
structure Summary where
  aggregate : Aggregate
  /-- Which rows it is about. -/
  among : List Condition
  name : String
  deriving DecidableEq, Repr

/-- The text of a summary. -/
def Summary.text (summary : Summary) : String :=
  summary.aggregate.text ++ " FILTER (" ++ clauses (whereClause summary.among) ++ ") AS " ++
    summary.name

/-! ## Tables -/

/-- The name of a type where columns are declared. -/
def ColumnType.keyword : ColumnType → String
  | int4 => "INTEGER"
  | int8 => "BIGINT"
  | bool => "BOOLEAN"
  | type => type.name

/-- A column in another table in which the values of a column are found. -/
structure Reference where
  table : TableName
  column : String
  deriving DecidableEq, Repr

/-- A column of a table. Values are never missing from it, and those of a key differ in all rows. -/
structure Column where
  name : String
  type : ColumnType
  isKey : Bool := false
  /-- A row goes when the one goes that it refers to. -/
  reference : Option Reference := none
  default : Option Literal := none
  check : Option Condition := none
  deriving DecidableEq, Repr

/-- The text that declares a column. -/
def Column.text (column : Column) : String :=
  column.name ++ " " ++ column.type.keyword ++
    (if column.isKey then " PRIMARY KEY" else " NOT NULL") ++
    column.reference.elim "" (fun reference => " REFERENCES " ++ reference.table.text ++ " (" ++
      reference.column ++ ") ON DELETE CASCADE") ++
    column.default.elim "" (fun value => " DEFAULT " ++ value.text) ++
    column.check.elim "" fun condition => " CHECK (" ++ condition.text ++ ")"

/-- The columns of a table. -/
def TableName.columns : TableName → List Column
  | events => [
    { name := "event_id", type := .uuid, isKey := true },
    { name := "aggregate_id", type := .uuid },
    { name := "aggregate_type", type := .text },
    { name := "status", type := .text,
      check := some (.isOneOf (.column "status") (EventStatus.all.map .status)) },
    { name := "event_name", type := .text,
      check := some (.compare (.column "event_name") .different (.literal .emptyText)) },
    { name := "by_user", type := .uuid },
    { name := "extra_metadata", type := .jsonb, default := some .emptyDocument },
    { name := "payload", type := .jsonb },
    { name := "created", type := .timestamptz },
    { name := "updated", type := .timestamptz }]
  | deliveries => [
    { name := "event_id", type := .uuid, isKey := true,
      reference := some ⟨.events, "event_id"⟩ },
    { name := "attempts", type := .int4,
      check := some (.compare (.column "attempts") .atLeast (.literal .zero)) },
    { name := "last_error", type := .text },
    { name := "next_attempt_at", type := .timestamptz },
    { name := "parked", type := .bool, default := some .falsity }]
  | categories => [
    { name := "code", type := .text, isKey := true },
    { name := "name", type := .text }]

/-- The text that creates a table. -/
def TableName.declaration (table : TableName) : String :=
  "CREATE TABLE IF NOT EXISTS " ++ table.text ++ " ( " ++
    listed (table.columns.map Column.text) ++ " );"

/-- An index, by which the server finds rows sooner. -/
structure Index where
  name : String
  table : TableName
  columns : List String
  /-- Which rows it lists. -/
  among : List Condition

/-- The text that creates an index. -/
def Index.text (index : Index) : String :=
  clauses (["CREATE INDEX IF NOT EXISTS " ++ index.name ++ " ON " ++ index.table.text ++ " (" ++
    listed index.columns ++ ")"] ++ whereClause index.among) ++ ";"

/-- The indexes of the records. -/
def recordIndexes : List Index := [
  ⟨"outbox_events_pending_idx", .events, ["created", "event_id"],
    [.compare (.column "status") .equal (.literal (.status .pending))]⟩,
  ⟨"outbox_events_status_updated_idx", .events, ["status", "updated"], []⟩]

/-- The text that creates all tables and indexes. -/
def schemaText : String :=
  clauses ([TableName.declaration .events] ++ recordIndexes.map Index.text ++
    [TableName.declaration .deliveries, TableName.declaration .categories])

/-! ## Commands -/

/-- What is done when a row is to be inserted and another one has the same value in a column. -/
structure Conflict where
  column : String
  /-- What the other row gets instead. -/
  assignments : List Assignment
  deriving DecidableEq, Repr

/-- A command. -/
inductive Command
  /-- Create the tables that do not exist yet. -/
  | schema
  | beginWork
  | commitWork
  | rollbackWork
  /-- Insert a row with the parameters for the values of columns, in their order. -/
  | insert (table : TableName) (columns : List String) (conflict : Option Conflict)
  | update (table : TableName) (assignments : List Assignment) (among : List Condition)
  | delete (table : TableName) (among : List Condition)
  | select (table : TableName) (columns : List String) (among : List Condition)
      (order : List Sorting)
  | summarize (table : TableName) (summaries : List Summary)
  deriving DecidableEq, Repr

namespace Command

/-- Place holders for a number of parameters. -/
def placeHolders (count : Nat) : String :=
  listed ((List.range count).map fun index => (Term.parameter (index + 1)).text)

/-- The text of assignments behind one another. -/
def assigned (assignments : List Assignment) : String :=
  listed (assignments.map Assignment.text)

/-- The text of a command. The columns of a plain insertion stand apart from their brackets. -/
def text : Command → String
  | schema => schemaText
  | beginWork => "BEGIN"
  | commitWork => "COMMIT"
  | rollbackWork => "ROLLBACK"
  | insert table columns none =>
    "INSERT INTO " ++ table.text ++ " ( " ++ listed columns ++ " ) VALUES (" ++
      placeHolders columns.length ++ ")"
  | insert table columns (some conflict) =>
    "INSERT INTO " ++ table.text ++ " (" ++ listed columns ++ ") VALUES (" ++
      placeHolders columns.length ++ ") ON CONFLICT (" ++ conflict.column ++ ") DO UPDATE SET " ++
      assigned conflict.assignments
  | update table assignments among =>
    clauses (["UPDATE " ++ table.text ++ " SET " ++ assigned assignments] ++ whereClause among)
  | delete table among => clauses (["DELETE FROM " ++ table.text] ++ whereClause among)
  | select table columns among order =>
    clauses (["SELECT " ++ listed columns ++ " FROM " ++ table.text] ++ whereClause among ++
      orderClause order)
  | summarize table summaries =>
    "SELECT " ++ listed (summaries.map Summary.text) ++ " FROM " ++ table.text

end Command

end Outbox.Database
