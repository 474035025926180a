import Outbox.Text.Blank

/-!
# Log formats

Log lines are JSON objects unless plain text is asked for.
-/

namespace Outbox.Log

/-- How log lines are written. -/
inductive Format
  | json
  | pretty
  deriving DecidableEq, Repr

namespace Format

/-- The format that is used when none is asked for. -/
def default : Format := json

/-- The written form. -/
def text : Format → String
  | json => "json"
  | pretty => "pretty"

/-- Reads a format, in letters of any case and between white space. The error is the message. -/
def parse (text : String) : Except String Format :=
  let word := Text.lowercase (Text.trim text)
  if word = "json" then .ok json
  else if word = "pretty" ∨ word = "text" then .ok pretty
  else .error ("unknown log format: " ++ word)

end Format

end Outbox.Log
