import Outbox.Text.Printable

/-!
# Quoted text

Error messages show a foreign text between double quotes. The quote and the backslash take a
backslash, four controls have a letter, and every other character that cannot stand for itself is
written by its number in hexadecimal.
-/

namespace Outbox.Text

/-- The hexadecimal digits of a number, small letters, without leading zeros. -/
def hexDigits (number : Nat) : List Char :=
  Nat.toDigits 16 number

/-- The hexadecimal digits of a number, filled up with zeros to at least the given width. -/
def hexPadded (width number : Nat) : List Char :=
  let digits := hexDigits number
  List.replicate (width - digits.length) '0' ++ digits

/-- How one character is written between the quotes. -/
def quoteChar (char : Char) : List Char :=
  if char = '\x00' then ['\\', '0']
  else if char = '\t' then ['\\', 't']
  else if char = '\r' then ['\\', 'r']
  else if char = '\n' then ['\\', 'n']
  else if char = '"' then ['\\', '"']
  else if char = '\\' then ['\\', '\\']
  else if isPrintable char then [char]
  else ['\\', 'u', '\x7b'] ++ hexDigits char.toNat ++ ['\x7d']

/-- A text between double quotes. -/
def quoted (text : String) : String :=
  String.ofList ('"' :: text.toList.flatMap quoteChar ++ ['"'])

/-- A text between backticks, as messages name fields and settings. -/
def backticked (text : String) : String :=
  let tick := String.singleton (Char.ofNat 0x60)
  tick ++ text ++ tick

end Outbox.Text
