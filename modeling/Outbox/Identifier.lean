import Outbox.Json.Codec

/-!
# Identifiers

Records, aggregates and users are named by UUIDs, numbers of 128 bits. They are written as
hyphenated groups of small hexadecimal digits and read in four forms: hyphenated, as 32 plain
digits, between braces, and behind `urn:uuid:`. A text in no form is diagnosed, from the first
character that no form holds to the group whose length is wrong.
-/

namespace Outbox

/-- A UUID. The number's order is the order of the written forms. -/
structure Identifier where
  number : Nat
  bounded : number < Nat.pow 2 128
  deriving DecidableEq

namespace Identifier

instance : Inhabited Identifier := ⟨⟨0, by decide⟩⟩

instance : Repr Identifier := ⟨fun identifier _ => repr identifier.number⟩

/-- The identifier of a number, whose higher bits do not count. -/
def ofNumber (number : Nat) : Identifier :=
  ⟨number % Nat.pow 2 128, Nat.mod_lt _ (by decide)⟩

instance : LT Identifier := ⟨fun left right => left.number < right.number⟩

instance (left right : Identifier) : Decidable (left < right) :=
  inferInstanceAs (Decidable (left.number < right.number))

/-! ## Written form -/

/-- The hexadecimal digit of a number below sixteen. -/
def hexDigit (number : Nat) : Char :=
  Nat.digitChar (number % 16)

/-- The last hexadecimal digits of a number, as many as asked for. -/
def digits : Nat → Nat → List Char
  | 0, _ => []
  | width + 1, number => digits width (number / 16) ++ [hexDigit number]

/-- Digits in five groups with hyphens between them. -/
def hyphenated (digits : List Char) : List Char :=
  digits.take 8 ++ '-' :: (digits.drop 8).take 4 ++ '-' :: (digits.drop 12).take 4 ++
    '-' :: (digits.drop 16).take 4 ++ '-' :: digits.drop 20

/-- The written form. -/
def text (identifier : Identifier) : String :=
  String.ofList (hyphenated (digits 32 identifier.number))

/-! ## Reading -/

/-- Why a text is no identifier. Groups count from zero, positions in bytes. -/
inductive ParseError
  | length (found : Nat)
  | character (found : Char) (position : Nat)
  | groupCount (found : Nat)
  | groupLength (group expected found : Nat)
  deriving DecidableEq, Repr

/-- The message of an error. -/
def ParseError.message : ParseError → String
  | .length found => "invalid length: found " ++ toString found
  | .character found position =>
    "invalid character: found " ++ Text.backticked (String.singleton found) ++ " at " ++
      toString position
  | .groupCount found => "invalid group count: expected 5, found " ++ toString found
  | .groupLength group expected found =>
    "invalid group length in group " ++ toString group ++ ": expected " ++ toString expected ++
      ", found " ++ toString found

/-- The number of a list of hexadecimal digits. -/
def ofDigits? (digits : List Char) : Option Nat :=
  digits.foldlM (fun number digit => (Json.hexValue? digit).map (number * 16 + ·)) 0

/-- The digits of a hyphenated text of the right length, if the hyphens are where they belong. -/
def ungrouped? (text : List Char) : Option (List Char) :=
  let digits := text.take 8 ++ (text.drop 9).take 4 ++ (text.drop 14).take 4 ++
    (text.drop 19).take 4 ++ text.drop 24
  if text = hyphenated digits then some digits else none

/-- Whether a text starts with `urn:uuid:`, in letters of any case. -/
def isUrn (text : List Char) : Bool :=
  (text.take 9).map Char.toLower = "urn:uuid:".toList

/-- The digits of an identifier in one of the four forms. -/
def digits? (text : List Char) : Option (List Char) :=
  if text.length = 32 then some text
  else if text.length = 36 then ungrouped? text
  else if text.length = 38 then
    if text.head? = some '\x7b' ∧ text.getLast? = some '\x7d' then
      ungrouped? ((text.drop 1).take 36)
    else none
  else if text.length = 45 then
    if isUrn text then ungrouped? (text.drop 9) else none
  else none

/-- The bytes that a text takes. -/
def byteLength (text : List Char) : Nat :=
  text.foldr (fun char total => char.utf8Size + total) 0

/-- The first character that is neither a hexadecimal digit nor a hyphen, with its position. -/
def firstForeign? (position : Nat) : List Char → Option (Char × Nat)
  | [] => none
  | char :: rest =>
    if (Json.hexValue? char).isSome ∨ char = '-' then firstForeign? (position + 1) rest
    else some (char, position)

/-- The positions of the hyphens. -/
def hyphens (position : Nat) : List Char → List Nat
  | [] => []
  | char :: rest =>
    if char = '-' then position :: hyphens (position + 1) rest else hyphens (position + 1) rest

/-- The first group that is not where it belongs. The starts and lengths of the groups are fixed;
    when the first four are right, the fifth is wrong. -/
def wrongGroup (group : Nat) (total : Nat) : List Nat → ParseError
  | [] => .groupLength 4 12 (total - 24)
  | bound :: rest =>
    let start := if group = 0 then 0 else 4 + 5 * group
    let expected := if group = 0 then 8 else 4
    if bound = start + expected then wrongGroup (group + 1) total rest
    else .groupLength group expected (bound - start)

/-- What is wrong with a text that is in no form. A text longer than the longest form is not looked
    into, and braces or the introduction are left out of account. -/
def diagnose (text : List Char) : ParseError :=
  let total := byteLength text
  if 45 < total then .length total
  else
    let (inner, offset, plain) :=
      if 2 ≤ text.length ∧ text.head? = some '\x7b' ∧ text.getLast? = some '\x7d' then
        ((text.drop 1).dropLast, 1, false)
      else if isUrn text then (text.drop 9, 9, false)
      else (text, 0, true)
    match firstForeign? offset inner with
    | some (char, position) => .character char position
    | none =>
      let bounds := hyphens 0 inner
      if bounds.isEmpty ∧ plain then .length total
      else if bounds.length ≠ 4 then .groupCount (bounds.length + 1)
      else wrongGroup 0 total bounds

/-- Reads an identifier. -/
def parse (text : String) : Except ParseError Identifier :=
  let chars := text.toList
  match (digits? chars).bind ofDigits? with
  | some number => .ok (ofNumber number)
  | none => .error (diagnose chars)

/-! ## JSON -/

/-- An identifier as a JSON value. -/
def json (identifier : Identifier) : Json :=
  .string identifier.text

/-- An identifier from JSON. -/
def decode (source : Json.Source) : Json.Decoded Identifier := do
  let text ← Json.decodeStringFor "a formatted UUID string" source
  (parse text).mapError fun error => .unparsed ("UUID parsing failed: " ++ error.message)

instance : Json.Codec Identifier := ⟨json, decode⟩

end Identifier

end Outbox
