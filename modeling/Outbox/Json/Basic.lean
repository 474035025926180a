import Outbox.Decimal.Shortest
import Outbox.Dictionary

/-!
# JSON values

Payloads, metadata and all stored and sent texts are JSON. Whole numbers that fit 64 bits keep
every digit and every other number is a binary64. The members of an object are listed by ascending
key, each key once, so a value has one written form.
-/

namespace Outbox

/-- A JSON number. -/
inductive Json.Number
  /-- A whole number that fits 64 bits, with a sign or without. -/
  | integer (value : Int)
  /-- Any other number, and the zero below zero. -/
  | float (value : Decimal.Binary64)
  deriving DecidableEq, Repr, Inhabited

/-- A JSON value. -/
inductive Json
  | null
  | bool (value : Bool)
  | number (value : Json.Number)
  | string (value : String)
  | array (elements : List Json)
  | object (members : List (String × Json))
  deriving Repr, Inhabited

namespace Json

/-- A whole number. -/
def integer (value : Int) : Json :=
  .number (.integer value)

/-- A count. -/
def count (value : Nat) : Json :=
  .number (.integer value)

/-- The object of some members, put in order; of several under one key the last one stays. -/
def ofMembers (members : List (String × Json)) : Json :=
  .object (Dictionary.ofList members).entries

/-- The value, or null when there is none. -/
def ofOption {Value : Type} (encode : Value → Json) : Option Value → Json
  | none => .null
  | some value => encode value

/-- The member of an object for a value, which is left out when there is none. -/
def optionalMember {Value : Type} (key : String) (encode : Value → Json) :
    Option Value → List (String × Json)
  | none => []
  | some value => [(key, encode value)]

/-- The object of a dictionary. -/
def ofDictionary {Value : Type} (encode : Value → Json) (dictionary : Dictionary Value) : Json :=
  .object (dictionary.entries.map fun entry => (entry.1, encode entry.2))

/-- The member of an object under a key; null when there is none, or no object. -/
def member (value : Json) (key : String) : Json :=
  match value with
  | .object members => (lookUp? key members).getD .null
  | _ => .null

end Json

end Outbox
