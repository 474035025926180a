import Outbox.Json.Basic
import Outbox.Text.Quoted

/-!
# Written JSON

A value is written without any white space. Members keep the order of the object, so a record that
is written field by field may choose its own.
-/

namespace Outbox.Json

/-- How one character is written inside a string: the quote, the backslash and the controls are
    escaped and all others stand for themselves. -/
def escapeChar (char : Char) : List Char :=
  if char = '"' then ['\\', '"']
  else if char = '\\' then ['\\', '\\']
  else if char = '\n' then ['\\', 'n']
  else if char = '\r' then ['\\', 'r']
  else if char = '\t' then ['\\', 't']
  else if char = '\x08' then ['\\', 'b']
  else if char = '\x0c' then ['\\', 'f']
  else if char.toNat < 0x20 then ['\\', 'u'] ++ Text.hexPadded 4 char.toNat
  else [char]

/-- A string between its quotes. -/
def stringText (text : String) : String :=
  String.ofList ('"' :: text.toList.flatMap escapeChar ++ ['"'])

/-- The text of a number. -/
def Number.text : Number → String
  | .integer value => toString value
  | .float value => value.text

/-- Texts between brackets, separated by commas. -/
def enclosed (left : String) (parts : List String) (right : String) : String :=
  left ++ String.intercalate "," parts ++ right

/-- The text of an object whose members are already written. -/
def objectText (members : List (String × String)) : String :=
  enclosed "\x7b" (members.map fun entry => stringText entry.1 ++ ":" ++ entry.2) "\x7d"

mutual

/-- The text of a value. -/
def text : Json → String
  | .null => "null"
  | .bool true => "true"
  | .bool false => "false"
  | .number value => value.text
  | .string value => stringText value
  | .array elements => enclosed "[" (elementTexts elements) "]"
  | .object members => objectText (memberTexts members)

/-- The texts of the elements of an array. -/
def elementTexts : List Json → List String
  | [] => []
  | element :: rest => element.text :: elementTexts rest

/-- The texts of the members of an object. -/
def memberTexts : List (String × Json) → List (String × String)
  | [] => []
  | (key, value) :: rest => (key, value.text) :: memberTexts rest

end

end Outbox.Json
