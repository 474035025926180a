import Outbox.Json.Printer
import Outbox.Json.Source

/-!
# Typed reading of JSON

Decoders go through a tree in order and stop at the first thing that does not fit. A record is read
from an object, whose members may come in any order and may be unknown, or from an array that lists
its fields in their declared order. `Source.fields` checks the fields in the order of the text and
answers with them by name, so that a record is put together in its declared order.
-/

namespace Outbox.Json

/-- What stands where something else was expected. -/
inductive Found
  | null
  | bool (value : Bool)
  | number (value : Number)
  | string (value : String)
  | sequence
  | map

/-- How a message names what it found. -/
def Found.text : Found → String
  | .null => "null"
  | .bool value => "boolean " ++ Text.backticked (if value then "true" else "false")
  | .number (.integer value) => "integer " ++ Text.backticked (toString value)
  | .number (.float value) => "floating point " ++ Text.backticked value.text
  | .string value => "string " ++ Text.quoted value
  | .sequence => "sequence"
  | .map => "map"

/-- Why a value does not decode. -/
inductive DecodeError
  /-- The text itself is at fault. -/
  | form (fault : Fault)
  | wrongType (found : Found) (expected : String)
  | wrongValue (found : Found) (expected : String)
  | wrongLength (length : Nat) (expected : String)
  /-- An array goes on after the last field. -/
  | tooLong (length : Nat)
  /-- Neither a name nor an object stands where a name is expected. -/
  | notName (found : Found)
  /-- An object with other than one member stands where a name is expected. -/
  | notSingle
  | unknownName (name : String) (known : List String)
  | unknownField (name : String) (known : List String)
  | missingField (name : String)
  | duplicateField (name : String)
  /-- The text inside a string does not parse; the message says why. -/
  | unparsed (message : String)

/-- The names that a message offers. -/
def offered (known : List String) : String :=
  match known.map Text.backticked with
  | [only] => "expected " ++ only
  | [first, second] => "expected " ++ first ++ " or " ++ second
  | names => "expected one of " ++ String.intercalate ", " names

/-- The message of an error in a value. The faults of a text have no message of their own. -/
def DecodeError.message : DecodeError → String
  | .form .incomplete => "incomplete text"
  | .form .malformed => "malformed text"
  | .wrongType found expected => "invalid type: " ++ found.text ++ ", expected " ++ expected
  | .wrongValue found expected => "invalid value: " ++ found.text ++ ", expected " ++ expected
  | .wrongLength length expected =>
    "invalid length " ++ toString length ++ ", expected " ++ expected
  | .tooLong length =>
    "invalid length " ++ toString length ++ ", expected fewer elements in array"
  | .notName found => "invalid type: " ++ found.text ++ ", expected string or map"
  | .notSingle => "invalid value: map, expected map with a single key"
  | .unknownName name known =>
    "unknown variant " ++ Text.backticked name ++ ", " ++ offered known
  | .unknownField name known => "unknown field " ++ Text.backticked name ++ ", " ++ offered known
  | .missingField name => "missing field " ++ Text.backticked name
  | .duplicateField name => "duplicate field " ++ Text.backticked name
  | .unparsed message => message

/-- The fault that an error counts as when a text is read: something that no reader of the expected
    form goes on from, or nothing when the text is in order but its content is not. -/
def DecodeError.fault? : DecodeError → Option Fault
  | .form fault => some fault
  | .tooLong _ => some .malformed
  | .notName _ => some .malformed
  | _ => none

/-- A decoder's answer. -/
abbrev Decoded (Value : Type) := Except DecodeError Value

/-- The outermost layer of a tree. -/
inductive Shape
  | null
  | bool (value : Bool)
  | number (value : Number)
  | string (value : String)
  | array (elements : List Source) (ending : Ending)
  | object (members : List (Option String × Source)) (ending : Ending)

/-- The outermost layer of a tree, unless it cannot be read. -/
def Source.shape : Source → Decoded Shape
  | .value .null | .null => .ok .null
  | .value (.bool held) | .bool held => .ok (.bool held)
  | .value (.number held) | .number held => .ok (.number held)
  | .value (.string held) | .string held => .ok (.string held)
  | .value (.array elements) => .ok (.array (elements.map .value) .closed)
  | .value (.object members) =>
    .ok (.object (members.map fun entry => (some entry.1, .value entry.2)) .closed)
  | .array elements ending => .ok (.array elements ending)
  | .object members ending => .ok (.object members ending)
  | .unreadable _ => .error (.form .malformed)
  | .fault reading _ => .error (.form reading)

/-- What a message says stands here. -/
def Shape.found : Shape → Found
  | .null => .null
  | .bool value => .bool value
  | .number value => .number value
  | .string value => .string value
  | .array _ _ => .sequence
  | .object _ _ => .map

/-- The tree of a finished value. -/
def source (value : Json) : Source :=
  .value value

/-! ## Values without parts -/

/-- The whole value, whatever it is. -/
def decodeJson (source : Source) : Decoded Json :=
  source.read.mapError .form

/-- A truth value. -/
def decodeBool (source : Source) : Decoded Bool := do
  match ← source.shape with
  | .bool value => return value
  | shape => throw (.wrongType shape.found "a boolean")

/-- A string that is put to a further use, which the message names otherwise. -/
def decodeStringFor (expected : String) (source : Source) : Decoded String := do
  match ← source.shape with
  | .string value => return value
  | shape => throw (.wrongType shape.found expected)

/-- A string. -/
def decodeString (source : Source) : Decoded String :=
  decodeStringFor "a string" source

/-- A count below a power of two. -/
def decodeUnsigned (bits : Nat) (source : Source) : Decoded Nat := do
  let expected := "u" ++ toString bits
  match ← source.shape with
  | .number (.integer value) =>
    if 0 ≤ value ∧ value < (Nat.pow 2 bits : Int) then return value.toNat
    else throw (.wrongValue (.number (.integer value)) expected)
  | shape => throw (.wrongType shape.found expected)

/-- A value that may be null. -/
def decodeOption {Value : Type} (decode : Source → Decoded Value) (source : Source) :
    Decoded (Option Value) := do
  match ← source.shape with
  | .null => return none
  | _ => return some (← decode source)

/-- An array of values, in order. -/
def decodeList {Value : Type} (decode : Source → Decoded Value) (source : Source) :
    Decoded (List Value) := do
  match ← source.shape with
  | .array elements ending =>
    let values ← elements.mapM decode
    ending.check.mapError .form
    return values
  | shape => throw (.wrongType shape.found "a sequence")

/-- One member of a map. -/
def decodeMember {Value : Type} (decode : Source → Decoded Value)
    (member : Option String × Source) : Decoded (String × Value) :=
  match member.1 with
  | some key => do return (key, ← decode member.2)
  | none => .error (.form .malformed)

/-- An object with any keys. -/
def decodeMap {Value : Type} (decode : Source → Decoded Value) (source : Source) :
    Decoded (Dictionary Value) := do
  match ← source.shape with
  | .object members ending =>
    let entries ← members.mapM (decodeMember decode)
    ending.check.mapError .form
    return .ofList entries
  | shape => throw (.wrongType shape.found "a map")

/-! ## Names -/

/-- What a name stands for, if it is a known one. -/
def named {Value : Type} (known : List (String × Value)) (name : String) : Decoded Value :=
  match lookUp? name known with
  | some value => .ok value
  | none => .error (.unknownName name (known.map Prod.fst))

/-- The null that stands under a name. -/
def decodeUnit (source : Source) : Decoded Unit := do
  match ← source.shape with
  | .null => return ()
  | shape => throw (.wrongType shape.found "unit")

/-- The end of a list after which nothing may follow. -/
def Ending.finish : Ending → Decoded Unit
  | .closed => .ok ()
  | .broken reading _ afterComma => .error (.form (if afterComma then .malformed else reading))

/-- What one of some known names stands for. The name is written as a string or as the only key of
    an object whose value is null. A finished object is first asked for its only key; a text is
    read as it comes. -/
def decodeNamed {Value : Type} (known : List (String × Value)) (source : Source) :
    Decoded Value := do
  match source, ← source.shape with
  | _, .string name => named known name
  | .value _, .object [(some name, content)] _ =>
    let value ← named known name
    decodeUnit content
    return value
  | .value _, .object _ _ => throw .notSingle
  | _, .object [] ending =>
    ending.finish
    throw (.form .malformed)
  | _, .object ((none, _) :: _) _ => throw (.form .malformed)
  | _, .object ((some name, content) :: rest) ending =>
    let value ← named known name
    decodeUnit content
    unless rest.isEmpty do throw (.form .malformed)
    ending.finish
    return value
  | _, shape => throw (.notName shape.found)

/-! ## Records -/

/-- Whether a field may be left out. -/
inductive Presence
  | required
  /-- Left out of an object it is null; an array has to list it. -/
  | nullable
  /-- It may be left out of an object and of the end of an array. -/
  | optional
  deriving DecidableEq

/-- A field of a record: its name, whether it may be left out, and what its value has to be. -/
structure Field where
  name : String
  presence : Presence
  check : Source → Decoded Unit

/-- A field that has to be there. -/
def Field.required {Value : Type} (name : String) (decode : Source → Decoded Value) : Field :=
  ⟨name, .required, fun source => (decode source).map fun _ => ()⟩

/-- A field that may be null and be left out of an object. -/
def Field.nullable {Value : Type} (name : String) (decode : Source → Decoded Value) : Field :=
  ⟨name, .nullable, fun source => (decodeOption decode source).map fun _ => ()⟩

/-- A field that may be null and be left out everywhere. -/
def Field.optional {Value : Type} (name : String) (decode : Source → Decoded Value) : Field :=
  ⟨name, .optional, fun source => (decodeOption decode source).map fun _ => ()⟩

/-- The form of a record. -/
structure Layout where
  name : String
  fields : List Field
  /-- Whether other members are refused instead of passed over. -/
  closed : Bool := false

/-- How a message names the record that it expected. -/
def Layout.title (layout : Layout) : String :=
  "struct " ++ layout.name

/-- How a message names the record when an array is too short for it. -/
def Layout.lengthTitle (layout : Layout) : String :=
  if layout.closed then layout.title
  else layout.title ++ " with " ++ toString layout.fields.length ++ " elements"

/-- The fields of a record by name. -/
abbrev Fields := List (String × Source)

/-- The fields of a record among the members of an object, each checked where it comes. The ones
    found so far are held. -/
def Layout.fieldsOfMembers (layout : Layout) (held : Fields) :
    List (Option String × Source) → Decoded Fields
  | [] => .ok held
  | (none, _) :: _ => .error (.form .malformed)
  | (some name, value) :: rest =>
    match layout.fields.find? fun field => field.name = name with
    | none =>
      if layout.closed then
        .error (.unknownField name (layout.fields.map Field.name))
      else
        match value.skip with
        | some fault => .error (.form fault)
        | none => layout.fieldsOfMembers held rest
    | some field =>
      if (lookUp? name held).isSome then .error (.duplicateField name)
      else
        match field.check value with
        | .error error => .error error
        | .ok () => layout.fieldsOfMembers ((name, value) :: held) rest

/-- The fields of a record among the elements of an array, which are still to be read, after those
    before them. What follows the last field is left. -/
def Layout.fieldsOfElements (layout : Layout) (position : Nat) (ending : Ending) :
    List Field → List Source → Decoded (Fields × List Source)
  | [], rest => .ok ([], rest)
  | field :: fields, [] => do
    ending.check.mapError .form
    match field.presence with
    | .optional => layout.fieldsOfElements (position + 1) ending fields []
    | _ => throw (.wrongLength position layout.lengthTitle)
  | field :: fields, element :: rest => do
    field.check element
    let (held, rest) ← layout.fieldsOfElements (position + 1) ending fields rest
    return ((field.name, element) :: held, rest)

/-- The fields of a record, each checked. -/
def Layout.fieldsOf (layout : Layout) (source : Source) : Decoded Fields := do
  match ← source.shape with
  | .object members ending =>
    let held ← layout.fieldsOfMembers [] members
    ending.check.mapError .form
    return held
  | .array elements ending =>
    let (held, rest) ← layout.fieldsOfElements 0 ending layout.fields elements
    unless rest.isEmpty do throw (.tooLong elements.length)
    ending.finish
    return held
  | shape => throw (.wrongType shape.found layout.title)

/-- The value of a field that has to be there. -/
def Fields.required {Value : Type} (fields : Fields) (name : String)
    (decode : Source → Decoded Value) : Decoded Value :=
  match lookUp? name fields with
  | some source => decode source
  | none => .error (.missingField name)

/-- The value of a field that may be null or left out. -/
def Fields.optional {Value : Type} (fields : Fields) (name : String)
    (decode : Source → Decoded Value) : Decoded (Option Value) :=
  match lookUp? name fields with
  | some source => decodeOption decode source
  | none => .ok none

/-! ## Whole texts -/

/-- Decodes a text, after whose value nothing may follow. -/
def decodeText {Value : Type} (decode : Source → Decoded Value) (text : String) :
    Decoded Value := do
  let document := Document.ofText text
  let value ← decode document.root
  if document.trailing then throw (.form .malformed)
  return value

end Outbox.Json
