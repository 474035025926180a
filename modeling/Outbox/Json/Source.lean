import Outbox.Json.Basic

/-!
# JSON as it is read

A decoder reads a tree that is either a finished value or a text taken apart. The tree of a text
keeps the members of its objects in the order of the text, repeated keys included, and stands also
for a text that breaks off or goes wrong: the fault lies where a reader that goes through the tree
in order meets it. Some parts of a text are in order only for a reader that passes over them, such
as a number beyond every binary64; the tree keeps the two readers apart.
-/

namespace Outbox.Json

/-- What is wrong with the form of a text. -/
inductive Fault
  /-- The text ends too early. -/
  | incomplete
  /-- The text is not JSON. -/
  | malformed
  deriving DecidableEq, Repr

/-- How a list of elements or members ends. -/
inductive Ending
  | closed
  /-- The fault for a reader and for one that passes over the list, and whether a comma was the
      last thing before it. -/
  | broken (reading skipping : Fault) (afterComma : Bool)
  deriving DecidableEq, Repr

/-- A JSON value as a decoder reads it. -/
inductive Source
  /-- A finished value. -/
  | value (value : Json)
  | null
  | bool (value : Bool)
  | number (value : Number)
  | string (value : String)
  | array (elements : List Source) (ending : Ending)
  /-- Members in the order of the text. A key is missing when it cannot be read, only passed
      over. -/
  | object (members : List (Option String × Source)) (ending : Ending)
  /-- A part that a reader refuses and that can be passed over as far as its content can. -/
  | unreadable (content : Source)
  /-- The end of the tree: the fault for a reader and for one that passes over it. -/
  | fault (reading skipping : Fault)
  deriving Repr, Inhabited

/-- A text taken apart: its value, and whether something else follows. -/
structure Document where
  root : Source
  trailing : Bool

/-! ## White space and words -/

/-- Whether a character may stand between the parts of a JSON text. -/
def isSpace (char : Char) : Bool :=
  char = ' ' || char = '\n' || char = '\t' || char = '\r'

/-- The text from the next part on. -/
def skipSpace (text : List Char) : List Char :=
  text.dropWhile isSpace

/-- What is left of a text after a word, or the fault when the word is not there. -/
def afterWord : List Char → List Char → Except Fault (List Char)
  | [], text => .ok text
  | _ :: _, [] => .error .incomplete
  | expected :: word, char :: text =>
    if char = expected then afterWord word text else .error .malformed

/-! ## Strings -/

/-- The value of a hexadecimal digit. -/
def hexValue? (char : Char) : Option Nat :=
  if '0' ≤ char ∧ char ≤ '9' then some (char.toNat - '0'.toNat)
  else if 'a' ≤ char ∧ char ≤ 'f' then some (char.toNat - 'a'.toNat + 10)
  else if 'A' ≤ char ∧ char ≤ 'F' then some (char.toNat - 'A'.toNat + 10)
  else none

/-- The number of four hexadecimal digits at the start of a text, and the text after them. Fewer
    than four bytes are too few. -/
def fourDigits (text : List Char) : Except Fault (Nat × List Char) :=
  match text with
  | first :: second :: third :: fourth :: rest =>
    match hexValue? first, hexValue? second, hexValue? third, hexValue? fourth with
    | some a, some b, some c, some d => .ok (((a * 16 + b) * 16 + c) * 16 + d, rest)
    | _, _, _, _ => .error .malformed
  | _ =>
    let bytes := text.foldr (fun char total => char.utf8Size + total) 0
    if bytes < 4 then .error .incomplete else .error .malformed

/-- The character of a short escape. -/
def shortEscape? (char : Char) : Option Char :=
  match char with
  | '"' => some '"'
  | '\\' => some '\\'
  | '/' => some '/'
  | 'b' => some '\x08'
  | 'f' => some '\x0c'
  | 'n' => some '\n'
  | 'r' => some '\r'
  | 't' => some '\t'
  | _ => none

/-- A part of a text that was scanned. -/
inductive Scan (Part : Type)
  /-- The part and the text after it. -/
  | done (part : Part) (rest : List Char)
  /-- A part that can only be passed over, and the text after it. -/
  | passed (rest : List Char)
  /-- The fault for a reader and for one that passes over the part. -/
  | stopped (reading skipping : Fault)

/-- The rest of a string from inside its quotes on. The characters read so far are held in reverse,
    or not at all once the string cannot be read; the fuel is the length of the text. A code of one
    half of a pair of surrogates needs the code of the other half behind it. -/
def scanString : Nat → Option (List Char) → List Char → Scan String
  | 0, held, _ => .stopped (if held.isSome then .incomplete else .malformed) .incomplete
  | fuel + 1, held, text =>
    let stop (fault : Fault) : Scan String :=
      .stopped (if held.isSome then fault else .malformed) fault
    match text with
    | [] => stop .incomplete
    | '"' :: rest =>
      match held with
      | some chars => .done (String.ofList chars.reverse) rest
      | none => .passed rest
    | ['\\'] => stop .incomplete
    | '\\' :: 'u' :: rest =>
      match fourDigits rest with
      | .error fault => stop fault
      | .ok (unit, rest) =>
        if 0xDC00 ≤ unit ∧ unit ≤ 0xDFFF then scanString fuel none rest
        else if 0xD800 ≤ unit ∧ unit ≤ 0xDBFF then
          match rest with
          | [] => stop .incomplete
          | ['\\'] => stop .incomplete
          | '\\' :: 'u' :: rest' =>
            match fourDigits rest' with
            | .error fault => stop fault
            | .ok (second, rest'') =>
              if 0xDC00 ≤ second ∧ second ≤ 0xDFFF then
                let point := 0x10000 + (unit - 0xD800) * 0x400 + (second - 0xDC00)
                scanString fuel (held.map (Char.ofNat point :: ·)) rest''
              else scanString fuel none rest
          | _ => scanString fuel none rest
        else scanString fuel (held.map (Char.ofNat unit :: ·)) rest
    | '\\' :: escaped :: rest =>
      match shortEscape? escaped with
      | some char => scanString fuel (held.map (char :: ·)) rest
      | none => stop .malformed
    | char :: rest =>
      if char.toNat < 0x20 then stop .malformed
      else scanString fuel (held.map (char :: ·)) rest

/-- A string from behind its opening quote on. -/
def stringAt (text : List Char) : Scan String :=
  scanString (text.length + 1) (some []) text

/-! ## Numbers -/

/-- The largest whole number without a sign. -/
def largestUnsigned : Nat := Nat.pow 2 64 - 1

/-- Appends decimal digits to a number while it fits 64 bits, and gives back the digits from the
    first one on that does not fit. -/
def absorbDigits (number : Nat) : List Char → Nat × List Char
  | [] => (number, [])
  | digit :: rest =>
    let longer := number * 10 + (digit.toNat - '0'.toNat)
    if longer ≤ largestUnsigned then absorbDigits longer rest else (number, digit :: rest)

/-- A whole number from its digits, when 64 bits hold it. The zero below zero is no whole
    number. -/
def wholeNumber? (negative : Bool) (digits : Nat) : Option Int :=
  if negative then if 0 < digits ∧ digits ≤ Nat.pow 2 63 then some (-(digits : Int)) else none
  else if digits ≤ largestUnsigned then some digits else none

/-- The number of its digits. Without a fraction and an exponent it is a whole number if it fits;
    all others are binary64, and there is none when the number is too large. -/
def numberOf (negative : Bool) (whole fraction : List Char) (exponent : Option Int) :
    Option Number :=
  let (digits, beyond) := absorbDigits 0 whole
  let (digits, unused) := absorbDigits digits fraction
  let power : Int := beyond.length - (fraction.length - unused.length : Nat)
  let plain := if fraction.isEmpty ∧ exponent.isNone ∧ beyond.isEmpty
    then wholeNumber? negative digits else none
  match plain with
  | some value => some (.integer value)
  | none =>
    (Decimal.Binary64.ofDigits negative digits (power + exponent.getD 0)).map .float

/-- The number that decimal digits write. -/
def digitsValue (digits : List Char) : Nat :=
  digits.foldl (fun number digit => number * 10 + (digit.toNat - '0'.toNat)) 0

/-- The digits at the start of a text that needs at least one, and the text after them. -/
def scanDigits (text : List Char) : Scan (List Char) :=
  let digits := text.takeWhile Char.isDigit
  if digits.isEmpty then
    .stopped (if text.isEmpty then .incomplete else .malformed) .malformed
  else .done digits (text.drop digits.length)

/-- The whole part of a number: a zero alone or digits that do not start with one. -/
def scanWhole (text : List Char) : Scan (List Char) :=
  match scanDigits text with
  | .done digits rest =>
    if digits.head? = some '0' ∧ 1 < digits.length then .stopped .malformed .malformed
    else .done digits rest
  | other => other

/-- The fraction of a number, without digits when there is no point. -/
def scanFraction (text : List Char) : Scan (List Char) :=
  match text with
  | '.' :: rest => scanDigits rest
  | _ => .done [] text

/-- The exponent of a number, if it has one. -/
def scanExponent (text : List Char) : Scan (Option Int) :=
  let signed (sign : Int) (rest : List Char) : Scan (Option Int) :=
    match scanDigits rest with
    | .done digits rest => .done (some (sign * digitsValue digits)) rest
    | .passed rest => .passed rest
    | .stopped reading skipping => .stopped reading skipping
  match text with
  | char :: rest =>
    if char = 'e' ∨ char = 'E' then
      match rest with
      | '+' :: rest => signed 1 rest
      | '-' :: rest => signed (-1) rest
      | _ => signed 1 rest
    else .done none text
  | [] => .done none text

/-- A number from behind its sign on. -/
def scanNumber (negative : Bool) (text : List Char) : Scan Number :=
  match scanWhole text with
  | .passed rest => .passed rest
  | .stopped reading skipping => .stopped reading skipping
  | .done whole rest =>
    match scanFraction rest with
    | .passed rest => .passed rest
    | .stopped reading skipping => .stopped reading skipping
    | .done fraction rest =>
      match scanExponent rest with
      | .passed rest => .passed rest
      | .stopped reading skipping => .stopped reading skipping
      | .done exponent rest =>
        match numberOf negative whole fraction exponent with
        | some value => .done value rest
        | none => .passed rest

/-! ## Values -/

/-- The tree of a scanned part, and the text after it unless the text stops there. -/
def Scan.leaf {Part : Type} (build : Part → Source) : Scan Part → Source × Option (List Char)
  | .done part rest => (build part, some rest)
  | .passed rest => (.unreadable .null, some rest)
  | .stopped reading skipping => (.fault reading skipping, none)

/-- The tree of a word, and the text after it. -/
def wordLeaf (word : String) (leaf : Source) (text : List Char) : Source × Option (List Char) :=
  match afterWord word.toList text with
  | .ok rest => (leaf, some rest)
  | .error fault => (.fault fault fault, none)

/-- The deepest nesting of arrays and objects that a reader follows. -/
def deepest : Nat := 127

/-- A list whose level is too deep can only be passed over. -/
def Source.atLevel (level : Nat) (list : Source) : Source :=
  if level ≤ deepest then list else .unreadable list

mutual

/-- The value at the start of a text, and the text after it unless the text stops inside. The level
    counts the arrays and objects around the value; the fuel bounds the steps by the length of the
    text. -/
def valueAt (fuel level : Nat) (text : List Char) : Source × Option (List Char) :=
  match fuel with
  | 0 => (.fault .incomplete .incomplete, none)
  | fuel + 1 =>
    match skipSpace text with
    | [] => (.fault .incomplete .incomplete, none)
    | 'n' :: rest => wordLeaf "ull" .null rest
    | 't' :: rest => wordLeaf "rue" (.bool true) rest
    | 'f' :: rest => wordLeaf "alse" (.bool false) rest
    | '"' :: rest => (stringAt rest).leaf .string
    | '-' :: rest => (scanNumber true rest).leaf .number
    | '[' :: rest =>
      let (elements, ending, rest) := elementsAt fuel (level + 1) false rest
      ((Source.array elements ending).atLevel (level + 1), rest)
    | '\x7b' :: rest =>
      let (members, ending, rest) := membersAt fuel (level + 1) false rest
      ((Source.object members ending).atLevel (level + 1), rest)
    | char :: rest =>
      if char.isDigit then (scanNumber false (char :: rest)).leaf .number
      else (.fault .malformed .malformed, none)

/-- The elements of an array, from behind its bracket or, once there are some, from behind an
    element on. -/
def elementsAt (fuel level : Nat) (started : Bool) (text : List Char) :
    List Source × Ending × Option (List Char) :=
  match fuel with
  | 0 => ([], .broken .incomplete .incomplete false, none)
  | fuel + 1 =>
    let stop (fault : Fault) (afterComma : Bool) : List Source × Ending × Option (List Char) :=
      ([], .broken fault fault afterComma, none)
    let element (text : List Char) : List Source × Ending × Option (List Char) :=
      match valueAt fuel level text with
      | (value, none) => ([value], .closed, none)
      | (value, some rest) =>
        let (more, ending, rest) := elementsAt fuel level true rest
        (value :: more, ending, rest)
    match skipSpace text with
    | [] => stop .incomplete false
    | ']' :: rest => ([], .closed, some rest)
    | ',' :: rest =>
      if started then
        match skipSpace rest with
        | [] => stop .incomplete true
        | ']' :: _ => stop .malformed true
        | rest => element rest
      else stop .malformed false
    | rest => if started then stop .malformed false else element rest

/-- The members of an object, from behind its brace or, once there are some, from behind a member
    on. -/
def membersAt (fuel level : Nat) (started : Bool) (text : List Char) :
    List (Option String × Source) × Ending × Option (List Char) :=
  match fuel with
  | 0 => ([], .broken .incomplete .incomplete false, none)
  | fuel + 1 =>
    let stop (fault : Fault) (afterComma : Bool) :
        List (Option String × Source) × Ending × Option (List Char) :=
      ([], .broken fault fault afterComma, none)
    let valueOf (key : Option String) (text : List Char) :
        List (Option String × Source) × Ending × Option (List Char) :=
      match skipSpace text with
      | [] => ([(key, .fault .incomplete .incomplete)], .closed, none)
      | ':' :: rest =>
        match valueAt fuel level rest with
        | (value, none) => ([(key, value)], .closed, none)
        | (value, some rest) =>
          let (more, ending, rest) := membersAt fuel level true rest
          ((key, value) :: more, ending, rest)
      | _ => ([(key, .fault .malformed .malformed)], .closed, none)
    let member (text : List Char) : List (Option String × Source) × Ending × Option (List Char) :=
      match stringAt text with
      | .done key rest => valueOf (some key) rest
      | .passed rest => valueOf none rest
      | .stopped reading skipping => ([], .broken reading skipping false, none)
    match skipSpace text with
    | [] => stop .incomplete false
    | '\x7d' :: rest => ([], .closed, some rest)
    | ',' :: rest =>
      if started then
        match skipSpace rest with
        | [] => stop .incomplete true
        | '"' :: rest => member rest
        | _ => stop .malformed true
      else stop .malformed false
    | '"' :: rest => if started then stop .malformed false else member rest
    | _ => stop .malformed false

end

/-- A text taken apart. -/
def Document.ofText (text : String) : Document :=
  let chars := text.toList
  let (root, rest) := valueAt (2 * chars.length + 2) 0 chars
  { root, trailing := !(skipSpace (rest.getD [])).isEmpty }

/-! ## The two readers -/

mutual

/-- The first fault that a reader meets who passes over a part. -/
def Source.skip : Source → Option Fault
  | .fault _ skipping => some skipping
  | .unreadable content => content.skip
  | .array elements ending => (skipElements elements).orElse fun _ => ending.skip
  | .object members ending => (skipMembers members).orElse fun _ => ending.skip
  | .value _ | .null | .bool _ | .number _ | .string _ => none

/-- The fault of an ending for a reader who passes over the list. -/
def Ending.skip : Ending → Option Fault
  | .closed => none
  | .broken _ skipping _ => some skipping

/-- The first fault in elements that are passed over. -/
def skipElements : List Source → Option Fault
  | [] => none
  | element :: rest => element.skip.orElse fun _ => skipElements rest

/-- The first fault in members that are passed over. -/
def skipMembers : List (Option String × Source) → Option Fault
  | [] => none
  | (_, value) :: rest => value.skip.orElse fun _ => skipMembers rest

end

/-- The fault of an ending for a reader of the list. -/
def Ending.check : Ending → Except Fault Unit
  | .closed => .ok ()
  | .broken reading _ _ => .error reading

mutual

/-- The value of a part, or the first fault that its reader meets. -/
def Source.read : Source → Except Fault Json
  | .value value => .ok value
  | .null => .ok .null
  | .bool value => .ok (.bool value)
  | .number value => .ok (.number value)
  | .string value => .ok (.string value)
  | .array elements ending => do
    let elements ← readElements elements
    ending.check
    return .array elements
  | .object members ending => do
    let members ← readMembers members
    ending.check
    return .ofMembers members
  | .unreadable _ => .error .malformed
  | .fault reading _ => .error reading

/-- The values of elements, in order. -/
def readElements : List Source → Except Fault (List Json)
  | [] => .ok []
  | element :: rest => do
    let value ← element.read
    let values ← readElements rest
    return value :: values

/-- The keys and values of members, in order. -/
def readMembers : List (Option String × Source) → Except Fault (List (String × Json))
  | [] => .ok []
  | (none, _) :: _ => .error .malformed
  | (some key, source) :: rest => do
    let value ← source.read
    let members ← readMembers rest
    return (key, value) :: members

end

/-- The value that a text writes. -/
def ofText (text : String) : Except Fault Json := do
  let document := Document.ofText text
  let value ← document.root.read
  if document.trailing then .error .malformed else .ok value

end Outbox.Json
