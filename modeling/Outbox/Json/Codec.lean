import Outbox.Json.Decode

/-!
# Types with a JSON form

A type has a JSON form when its values can be written as JSON and read back from it. Sequences,
optional values and dictionaries take over the forms of what they hold.
-/

namespace Outbox.Json

/-- The JSON form of a type. -/
class Codec (Value : Type) where
  json : Value → Json
  decode : Source → Decoded Value

/-- The form of a type whose values are written as names. -/
abbrev Codec.named {Value : Type} (name : Value → String) (known : List (String × Value)) :
    Codec Value :=
  ⟨fun value => .string (name value), decodeNamed known⟩

instance : Codec Json := ⟨id, decodeJson⟩

instance : Codec Bool := ⟨.bool, decodeBool⟩

instance : Codec String := ⟨.string, decodeString⟩

instance {Value : Type} [Codec Value] : Codec (Option Value) :=
  ⟨ofOption Codec.json, decodeOption Codec.decode⟩

instance {Value : Type} [Codec Value] : Codec (List Value) :=
  ⟨fun values => .array (values.map Codec.json), decodeList Codec.decode⟩

instance {Value : Type} [Codec Value] : Codec (Dictionary Value) :=
  ⟨ofDictionary Codec.json, decodeMap Codec.decode⟩

end Outbox.Json
