import Mathlib.Data.List.TakeWhile
import Outbox.Proofs.Identifier
import Outbox.Relay.Operators

/-!
# What operators reach

An operator names a parked record by writing its identifier into an address. The identifier is
written with hexadecimal digits and hyphens only, so that neither the marks that cut an address into
pieces nor the percent sign that stands for another character get in its way, and the relay asks its
store about that very record.
-/

namespace Outbox

open Calendar

/-! ## Addresses -/

namespace Text

/-- A text without the mark is a piece of its own. -/
theorem pieces_of_unmarked {mark : Char} {text : List Char} (unmarked : mark ∉ text) :
    pieces mark text = [text] := by
  induction text with
  | nil => rfl
  | cons char rest inductionHypothesis =>
    rw [List.mem_cons, not_or] at unmarked
    rw [pieces, if_neg (Ne.symm unmarked.1), inductionHypothesis unmarked.2]

/-- A text without the mark is the first piece of a text that goes on with the mark. -/
theorem pieces_append_mark {mark : Char} {first : List Char} (unmarked : mark ∉ first)
    (rest : List Char) : pieces mark (first ++ mark :: rest) = first :: pieces mark rest := by
  induction first with
  | nil =>
    rw [List.nil_append, pieces, if_pos rfl]
  | cons char later inductionHypothesis =>
    rw [List.mem_cons, not_or] at unmarked
    rw [List.cons_append, pieces, if_neg (Ne.symm unmarked.1), inductionHypothesis unmarked.2]

end Text

namespace Relay

/-- Without percent signs a text stands for itself. -/
theorem percentDecode_of_unmarked {text : List Char} (unmarked : '%' ∉ text) :
    percentDecode text = text := by
  fun_induction percentDecode text with
  | case1 high low rest a b highValue lowValue inductionHypothesis => simp at unmarked
  | case2 high low rest noValue inductionHypothesis => simp at unmarked
  | case3 char rest noEscape inductionHypothesis =>
    rw [inductionHypothesis (List.not_mem_of_not_mem_cons unmarked)]
  | case4 => rfl

/-- No mark of an address is part of a written identifier. -/
theorem unmarked_text (event : Identifier) {mark : Char} (noDigit : Json.hexValue? mark = none)
    (noHyphen : mark ≠ '-') : mark ∉ event.text.toList := by
  intro member
  rcases Identifier.mem_text member with digit | hyphen
  · rw [noDigit] at digit
    cases digit
  · exact noHyphen hyphen

/-- A record is named by its written identifier. -/
theorem recordOf?_text (event : Identifier) : recordOf? event.text.toList = some event := by
  rw [recordOf?, percentDecode_of_unmarked (unmarked_text event (by decide) (by decide)),
    String.ofList_toList, Identifier.parse_text]
  rfl

/-- The address under which an operator asks for another round of attempts. -/
def requeueAddress (event : Identifier) : String :=
  "/outbox/parked/" ++ event.text ++ "/requeue"

/-- The address asks for another round of attempts for the record that it names. The written
identifier holds no slash, so it is one piece of the path, and no question mark, so the path does
not end with it. -/
theorem ofAddress?_requeueAddress (event : Identifier) :
    Route.ofAddress? (requeueAddress event) = some (.requeue event.text.toList) := by
  have noQuery : '?' ∉ event.text.toList := unmarked_text event (by decide) (by decide)
  have noSlash : '/' ∉ event.text.toList := unmarked_text event (by decide) (by decide)
  have characters : (requeueAddress event).toList =
      [] ++ '/' :: ("outbox".toList ++ '/' :: ("parked".toList ++
        '/' :: (event.text.toList ++ '/' :: "requeue".toList))) := by
    simp [requeueAddress]
  have path : pathOf (requeueAddress event) = (requeueAddress event).toList := by
    rw [pathOf, List.takeWhile_eq_self_iff]
    intro char member
    rw [bne_iff_ne]
    rintro rfl
    simp [characters, noQuery] at member
  rw [Route.ofAddress?, path, characters, Text.pieces_append_mark (by decide),
    Text.pieces_append_mark (by decide), Text.pieces_append_mark (by decide),
    Text.pieces_append_mark noSlash, Text.pieces_of_unmarked (by decide)]
  rfl

/-- The status of the answer to a requeue says how the store has answered. -/
theorem status_requeueResponse {relay : Relay} {segment : List Char} {event : Identifier}
    (named : recordOf? segment = some event) (now : Timestamp) :
    (relay.requeueResponse segment now).1.status =
      match (relay.site.call (.requeue event now)).1 with
      | .ok true => 204
      | .ok false => 404
      | .error error => (Response.ofStoreError error).status := by
  rw [requeueResponse, named]
  dsimp only
  generalize relay.site.call (.requeue event now) = answered
  obtain ⟨answer, site⟩ := answered
  rcases answer with error | accepted
  · rfl
  · cases accepted <;> rfl

/-- A posted request to the address of a record is answered as a requeue of that record. -/
theorem handle_requeueAddress (relay : Relay) (event : Identifier) (now : Timestamp) :
    relay.handle "POST" (requeueAddress event) now =
      relay.requeueResponse event.text.toList now := by
  rw [handle, ofAddress?_requeueAddress]
  rfl

end Relay

end Outbox
