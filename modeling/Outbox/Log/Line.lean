import Outbox.Json.Printer
import Outbox.Log.Format

/-!
# Log lines

A log line says how important it is, which part of the program wrote it, what happened, and with
which values. As JSON it leaves out the part of the program.
-/

namespace Outbox.Log

/-- How important a line is, the most important first. -/
inductive Level
  | error
  | warn
  | info
  | debug
  | trace
  deriving DecidableEq, Repr

namespace Level

/-- The name of a level. -/
def text : Level → String
  | error => "ERROR"
  | warn => "WARN"
  | info => "INFO"
  | debug => "DEBUG"
  | trace => "TRACE"

/-- The rank of a level, from one for the most important. -/
def rank : Level → Nat
  | error => 1
  | warn => 2
  | info => 3
  | debug => 4
  | trace => 5

end Level

/-- A value in a log line. -/
inductive Value
  | number (value : Nat)
  /-- A text that plain lines put between quotes. -/
  | quoted (text : String)
  /-- A text that stands for itself. -/
  | bare (text : String)

/-- A value as JSON. -/
def Value.json : Value → Json
  | .number value => .count value
  | .quoted text => .string text
  | .bare text => .string text

/-- A value in a plain line. -/
def Value.plain : Value → String
  | .number value => toString value
  | .quoted text => Text.quoted text
  | .bare text => text

/-- A log line. -/
structure Line where
  level : Level
  /-- The part of the program, as a path of names. -/
  target : String
  message : String
  values : List (String × Value)

namespace Line

/-- The line as JSON, without its time. -/
def json (line : Line) : Json :=
  .ofMembers [
    ("level", .string line.level.text),
    ("fields", .ofMembers (("message", .string line.message) ::
      line.values.map fun entry => (entry.1, entry.2.json)))]

/-- The line as plain text, without its time. -/
def plain (line : Line) : String :=
  line.level.text ++ " " ++ line.target ++ ": " ++ line.message ++
    String.join (line.values.map fun entry => " " ++ entry.1 ++ "=" ++ entry.2.plain)

end Line

end Outbox.Log
