import Outbox.Decimal.Whole
import Outbox.Text.Pieces

/-!
# Addresses of servers

The address of a server starts with a scheme and a colon. Two slashes behind it announce a host,
perhaps after the name of a user and before a port; then come a path, a query behind a question
mark and a fragment behind a number sign. Around an address, blanks and control characters do not
count, and line breaks and tabs count nowhere.
-/

namespace Outbox

/-- The parts of an address. -/
structure Address where
  scheme : String
  /-- The host behind two slashes, which may be empty. -/
  host : Option String
  port : Option Nat
  path : String
  query : String
  deriving DecidableEq, Repr

/-- Why a text is no address. -/
inductive AddressError
  | noScheme
  | badHost
  | badPort
  deriving DecidableEq, Repr

/-- The message of an error. -/
def AddressError.message : AddressError → String
  | noScheme => "relative URL without a base"
  | badHost => "invalid domain character"
  | badPort => "invalid port number"

namespace Address

/-- A text without what does not count in an address. -/
def bare (text : String) : List Char :=
  let counts (char : Char) : Bool := ' ' < char
  let inner := ((text.toList.dropWhile (!counts ·)).reverse.dropWhile (!counts ·)).reverse
  inner.filter fun char => char ≠ '\t' && char ≠ '\n' && char ≠ '\r'

/-- Whether a scheme may go on with a character. -/
def isSchemeChar (char : Char) : Bool :=
  char.isAlphanum || char = '+' || char = '-' || char = '.'

/-- The scheme, and what follows the colon behind it. -/
def splitScheme (text : List Char) : Option (String × List Char) :=
  match text, (text.takeWhile isSchemeChar), (text.dropWhile isSchemeChar) with
  | first :: _, scheme, ':' :: rest =>
    if first.isAlpha then some (String.ofList (scheme.map Char.toLower), rest) else none
  | _, _, _ => none

/-- A text up to the first of some characters, and the rest from there on. -/
def splitBefore (marks : List Char) (text : List Char) : List Char × List Char :=
  text.span fun char => !marks.contains char

/-- The characters behind the last one of a kind, or all of them. -/
def behindLast (mark : Char) (text : List Char) : List Char :=
  (text.reverse.takeWhile (· ≠ mark)).reverse

/-- The characters that no host has. -/
def isForbidden (char : Char) : Bool :=
  char.val = 0 || " #/:<>?@[\\]^|".toList.contains char

/-- The host and the port of a server. A host in brackets may contain colons. -/
def readServer (text : List Char) : Except AddressError (String × Option Nat) := do
  let (host, rest) := match text with
    | '[' :: inner =>
      let (inside, rest) := inner.span (· ≠ ']')
      ('[' :: inside ++ rest.take 1, rest.drop 1)
    | _ => text.span (· ≠ ':')
  let plain := host.filter fun char => !"[]:".toList.contains char
  if plain.any isForbidden then throw .badHost
  match rest with
  | [] => return (String.ofList host, none)
  | ':' :: digits =>
    if digits.isEmpty then return (String.ofList host, none)
    if !digits.all Char.isDigit then throw .badPort
    match Decimal.unsigned? (Nat.pow 2 16) (String.ofList digits) with
    | some port => return (String.ofList host, some port)
    | none => throw .badPort
  | _ => throw .badHost

/-- The address that a text writes. -/
def parse (text : String) : Except AddressError Address := do
  match splitScheme (bare text) with
  | none => throw .noScheme
  | some (scheme, rest) =>
    let (rest, _) := splitBefore ['#'] rest
    let (rest, query) := splitBefore ['?'] rest
    let query := String.ofList (query.drop 1)
    match rest with
    | '/' :: '/' :: rest =>
      let (server, path) := splitBefore ['/'] rest
      let (host, port) ← readServer (behindLast '@' server)
      return ⟨scheme, some host, port, String.ofList path, query⟩
    | path => return ⟨scheme, none, none, String.ofList path, query⟩

/-- The last value of a key in the query. -/
def setting? (address : Address) (key : String) : Option String :=
  let pairs := (Text.pieces '&' address.query.toList).map fun pair => pair.span (· ≠ '=')
  (pairs.reverse.find? fun pair => pair.1 = key.toList).map fun pair =>
    String.ofList (pair.2.drop 1)

end Address

end Outbox
