import Outbox.Identifier
import Outbox.Text.Pieces

/-!
# Paths for operators

A path is taken as it is written: letter case counts, a slash at the end makes another path, and
only the part that names a record may hold percent signs with hexadecimal digits for its
characters.
-/

namespace Outbox.Relay

/-- What an operator can ask for. -/
inductive Route
  | health
  | stats
  | parked
  /-- Another round of attempts for the record that a part of the path names. -/
  | requeue (segment : List Char)
  deriving DecidableEq, Repr

/-- The path of an address, without what follows a question mark. -/
def pathOf (address : String) : List Char :=
  address.toList.takeWhile (· != '?')

/-- What an address asks for. -/
def Route.ofAddress? (address : String) : Option Route :=
  match Text.pieces '/' (pathOf address) with
  | [[], first] => if first = "health".toList then some .health else none
  | [[], first, second] =>
    if first ≠ "outbox".toList then none
    else if second = "stats".toList then some .stats
    else if second = "parked".toList then some .parked
    else none
  | [[], first, second, segment, last] =>
    if first = "outbox".toList ∧ second = "parked".toList ∧ last = "requeue".toList then
      some (.requeue segment)
    else none
  | _ => none

/-- The methods that a route takes, the main one first. -/
def Route.methods : Route → List String
  | .requeue _ => ["POST"]
  | _ => ["GET", "HEAD"]

/-- A text in which a percent sign and two hexadecimal digits stand for the character of that
    number. Other percent signs stand for themselves. -/
def percentDecode : List Char → List Char
  | '%' :: high :: low :: rest =>
    match Json.hexValue? high, Json.hexValue? low with
    | some a, some b => Char.ofNat (a * 16 + b) :: percentDecode rest
    | _, _ => '%' :: percentDecode (high :: low :: rest)
  | char :: rest => char :: percentDecode rest
  | [] => []
termination_by text => text.length

/-- The record that a part of a path names. -/
def recordOf? (segment : List Char) : Option Identifier :=
  (Identifier.parse (String.ofList (percentDecode segment))).toOption

end Outbox.Relay
