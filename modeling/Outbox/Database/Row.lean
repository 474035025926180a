import Outbox.Calendar.Timestamp
import Outbox.Database.Error
import Outbox.Identifier

/-!
# Rows of the database

A row gives each of its columns a value. A reader expects the values of one column type. It takes
no value of another type, and a missing value only when it is told to.
-/

namespace Outbox.Database

open Calendar

/-- The types of columns. -/
inductive ColumnType
  | uuid
  | text
  | jsonb
  | timestamptz
  | int4
  | int8
  | bool
  deriving DecidableEq, Repr

/-- The name of a type. -/
def ColumnType.name : ColumnType → String
  | uuid => "UUID"
  | text => "TEXT"
  | jsonb => "JSONB"
  | timestamptz => "TIMESTAMPTZ"
  | int4 => "INT4"
  | int8 => "INT8"
  | bool => "BOOL"

/-- A value in a column, or a parameter of a statement. -/
inductive Datum
  | null
  | uuid (identifier : Identifier)
  | text (content : String)
  | jsonb (document : Json)
  | timestamptz (moment : Timestamp)
  | int4 (amount : Int)
  | int8 (amount : Int)
  | bool (truth : Bool)

namespace Datum

/-- The type of a value, which a missing one does not have. -/
def type? : Datum → Option ColumnType
  | null => none
  | uuid _ => some .uuid
  | text _ => some .text
  | jsonb _ => some .jsonb
  | timestamptz _ => some .timestamptz
  | int4 _ => some .int4
  | int8 _ => some .int8
  | bool _ => some .bool

/-- The value of a moment. A column keeps whole microseconds. -/
def ofMoment (moment : Timestamp) : Datum := timestamptz moment.wholeMicros

/-- The value as JSON. -/
def json : Datum → Json
  | null => .null
  | uuid identifier => identifier.json
  | text content => .string content
  | jsonb document => document
  | timestamptz moment => moment.json
  | int4 amount => .integer amount
  | int8 amount => .integer amount
  | bool truth => .bool truth

end Datum

/-- Reads the values of one column type. -/
structure Reader (Value : Type) where
  /-- What the values are called in messages. -/
  name : String
  type : ColumnType
  /-- What is read where no value is. -/
  missing : Option Value
  read? : Datum → Option Value

namespace Reader

/-- Reads identifiers. -/
def uuid : Reader Identifier where
  name := "uuid::Uuid"
  type := .uuid
  missing := none
  read?
    | .uuid identifier => some identifier
    | _ => none

/-- Reads texts. -/
def text : Reader String where
  name := "alloc::string::String"
  type := .text
  missing := none
  read?
    | .text content => some content
    | _ => none

/-- Reads documents. -/
def jsonb : Reader Json where
  name := "serde_json::value::Value"
  type := .jsonb
  missing := none
  read?
    | .jsonb document => some document
    | _ => none

/-- Reads moments. -/
def timestamptz : Reader Timestamp where
  name := "chrono::datetime::DateTime<chrono::offset::utc::Utc>"
  type := .timestamptz
  missing := none
  read?
    | .timestamptz moment => some moment
    | _ => none

/-- Reads integers of four bytes. -/
def int4 : Reader Int where
  name := "i32"
  type := .int4
  missing := none
  read?
    | .int4 amount => some amount
    | _ => none

/-- Reads integers of eight bytes. -/
def int8 : Reader Int where
  name := "i64"
  type := .int8
  missing := none
  read?
    | .int8 amount => some amount
    | _ => none

/-- Reads truth values. -/
def bool : Reader Bool where
  name := "bool"
  type := .bool
  missing := none
  read?
    | .bool truth => some truth
    | _ => none

/-- Reads values that may be missing. -/
def orMissing {Value : Type} (reader : Reader Value) : Reader (Option Value) where
  name := "core::option::Option<" ++ reader.name ++ ">"
  type := reader.type
  missing := some none
  read? datum := (reader.read? datum).map some

/-- Reads a value, or says why not. -/
def read {Value : Type} (reader : Reader Value) (datum : Datum) : Except String Value :=
  match datum.type? with
  | none =>
    match reader.missing with
    | some value => .ok value
    | none => .error ("unexpected null; try decoding as an " ++ Text.backticked "Option")
  | some type =>
    match reader.read? datum with
    | some value => .ok value
    | none => .error ("mismatched types; Rust type " ++ Text.backticked reader.name ++
        " (as SQL type " ++ Text.backticked reader.type.name ++
        ") is not compatible with SQL type " ++ Text.backticked type.name)

end Reader

/-- The values of a row under the names of their columns. -/
abbrev Row := List (String × Datum)

namespace Row

/-- The value in a column, if there is such a column. Of several, the last one counts. -/
def find? (row : Row) (column : String) : Option Datum :=
  (row.reverse.find? fun cell => cell.1 = column).map Prod.snd

/-- Reads the column with a name. -/
def get {Value : Type} (row : Row) (reader : Reader Value) (column : String) :
    Except Failure Value :=
  match row.find? column with
  | none => .error (.columnNotFound column)
  | some datum => (reader.read datum).mapError (.columnUnreadable (Text.quoted column))

/-- Reads the column at a position. -/
def getAt {Value : Type} (row : Row) (reader : Reader Value) (index : Nat) :
    Except Failure Value :=
  match row[index]? with
  | none => .error (.columnOutOfBounds index row.length)
  | some (_, datum) => (reader.read datum).mapError (.columnUnreadable (toString index))

end Row

end Outbox.Database
