import Outbox.DomainError

/-!
# Trade item numbers

A GTIN has 8, 12, 13 or 14 digits, of which the last one is a check digit: it makes the sum a
multiple of ten in which the digits count 1, 3, 1, 3 and so on from the last one leftwards.
`Gtin.validate` computes the check digit that the other digits ask for and compares.
-/

namespace Outbox.Gtin

/-- The legal numbers of digits. -/
def legalLengths : List Nat := [8, 12, 13, 14]

/-- Whether a text has the form of a trade item number. -/
def wellFormed (digits : List Char) : Bool :=
  legalLengths.contains digits.length && digits.all Char.isDigit

/-- The value of a decimal digit. -/
def digitValue (digit : Char) : Nat :=
  digit.toNat - '0'.toNat

/-- The sum of digits from the last one leftwards that count as the weight says first and then
    3 and 1 in turns. The digits are given from the last one on. -/
def weightedSum : Nat → List Nat → Nat
  | _, [] => 0
  | weight, digit :: rest => weight * digit + weightedSum (4 - weight) rest

/-- The check digit for the digits before it. -/
def checkDigit (body : List Nat) : Nat :=
  (10 - weightedSum 3 body.reverse % 10) % 10

/-- Whether the last digit is the check digit of the ones before it. -/
def checks (digits : List Nat) : Bool :=
  digits.getLast? = some (checkDigit digits.dropLast)

/-- Accepts a trade item number. -/
def validate (gtin : String) : Except DomainError Unit :=
  if !wellFormed gtin.toList then .error (.validation ("malformed GTIN: " ++ gtin))
  else if checks (gtin.toList.map digitValue) then .ok ()
  else .error (.validation ("GTIN check digit mismatch: " ++ gtin))

end Outbox.Gtin
