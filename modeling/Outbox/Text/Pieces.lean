/-!
# Texts in pieces

A mark cuts a text into the pieces between its occurrences. There is always one piece more than
there are marks, so a text without the mark is a piece of its own.
-/

namespace Outbox.Text

/-- The pieces of a text between the occurrences of a mark. -/
def pieces (mark : Char) : List Char → List (List Char)
  | [] => [[]]
  | char :: rest =>
    if char = mark then [] :: pieces mark rest
    else
      match pieces mark rest with
      | [] => [[char]]
      | first :: more => (char :: first) :: more

end Outbox.Text
