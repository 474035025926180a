import Outbox.Json.Source

/-!
# Whole numbers in texts

A text writes a whole number in decimal digits, behind a sign or not, and nothing else. A number
outside the range in which it is wanted is not read.
-/

namespace Outbox.Decimal

/-- The number that a text of decimal digits writes, of which there is at least one. -/
def digits? (text : List Char) : Option Nat :=
  if !text.isEmpty && text.all Char.isDigit then some (Json.digitsValue text) else none

/-- The number that a text writes, behind a plus sign or not, if it is below a bound. -/
def unsigned? (bound : Nat) (text : String) : Option Nat :=
  let number := match text.toList with
    | '+' :: rest => digits? rest
    | rest => digits? rest
  number.filter (· < bound)

/-- The number of 64 bits that a text writes, behind a sign or not. -/
def signed? (text : String) : Option Int :=
  let number : Option Int := match text.toList with
    | '-' :: rest => (digits? rest).map fun value => -(value : Int)
    | '+' :: rest => (digits? rest).map fun value => value
    | rest => (digits? rest).map fun value => value
  number.filter fun value => -(Nat.pow 2 63 : Int) ≤ value && value < (Nat.pow 2 63 : Int)

end Outbox.Decimal
