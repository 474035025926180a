/-!
# Blank text

White space is the Unicode property `White_Space`. A name, an event name or a setting counts as
absent when it holds nothing else, and settings are read after their white space has been cut off
at both ends.
-/

namespace Outbox.Text

/-- The ranges of the Unicode property `White_Space`, both ends included. -/
def blankRanges : List (Nat × Nat) :=
  [(0x09, 0x0D), (0x20, 0x20), (0x85, 0x85), (0xA0, 0xA0), (0x1680, 0x1680), (0x2000, 0x200A),
    (0x2028, 0x2029), (0x202F, 0x202F), (0x205F, 0x205F), (0x3000, 0x3000)]

/-- Whether a code point lies in one of the ranges, which need not be sorted. -/
def inRanges (ranges : List (Nat × Nat)) (point : Nat) : Bool :=
  ranges.any fun range => range.1 ≤ point && point ≤ range.2

/-- Whether a character is white space. -/
def isBlankChar (char : Char) : Bool :=
  inRanges blankRanges char.toNat

/-- The text without its leading white space. -/
def trimStart (text : List Char) : List Char :=
  text.dropWhile isBlankChar

/-- The text without its leading and trailing white space. -/
def trimChars (text : List Char) : List Char :=
  (trimStart (trimStart text).reverse).reverse

/-- The text without its leading and trailing white space. -/
def trim (text : String) : String :=
  String.ofList (trimChars text.toList)

/-- Whether a text holds nothing but white space. -/
def isBlank (text : String) : Bool :=
  text.toList.all isBlankChar

/-- A text in which the twenty-six capital ASCII letters have become small ones. Other letters
    keep their case, so the length never changes. -/
def lowercase (text : String) : String :=
  String.ofList (text.toList.map Char.toLower)

end Outbox.Text
