import Mathlib.Data.List.TakeWhile
import Outbox.Enqueue
import Outbox.Proofs.Registry
import Outbox.Proofs.Site

/-!
# What is enqueued

An event is enqueued when it has a name, a handler for its kind and a snapshot, and these are looked
at in this order. Nothing of the event is changed on its way into the record, and one record is
staged. Its kind has a handler, so a sender with the same handlers finds one for it whenever it
sends the record.
-/

namespace Outbox

open Calendar

/-- A text is blank exactly when nothing is left of it without white space at both ends. -/
theorem Text.isBlank_iff (text : String) : isBlank text = true ↔ trim text = "" := by
  rw [isBlank, List.all_eq_true, trim, String.ofList_eq_empty_iff, trimChars,
    List.reverse_eq_nil_iff, trimStart, List.dropWhile_eq_nil_iff, trimStart]
  constructor
  · intro blank char member
    have nothing : text.toList.dropWhile isBlankChar = [] := List.dropWhile_eq_nil_iff.mpr blank
    rw [nothing] at member
    cases member
  · intro rest char member
    rw [← List.takeWhile_append_dropWhile (p := isBlankChar) (l := text.toList)] at member
    rcases List.mem_append.mp member with leading | later
    · exact List.mem_takeWhile_imp leading
    · exact rest char (List.mem_reverse.mpr later)

namespace EnqueueRequest

variable {request : EnqueueRequest} {registry : Registry} {id : Identifier} {now : Timestamp}

/-- The pending record of an event with a snapshot. -/
def recordOf (request : EnqueueRequest) (payload : Json) (id : Identifier) (now : Timestamp) :
    EventRecord where
  id
  aggregate := request.aggregate
  aggregateType := request.aggregateType
  status := .pending
  eventName := request.eventName
  byUser := request.byUser
  extraMetadata := request.extraMetadata
  payload
  created := now
  updated := now

/-- Why an event has no record: the first thing that it lacks. -/
inductive Lacks (request : EnqueueRequest) (registry : Registry) : EnqueueError → Prop
  | name (blank : Text.trim request.eventName = "") :
      Lacks request registry (.invalid "event name cannot be empty")
  | handler (named : Text.trim request.eventName ≠ "")
      (unhandled : ∀ handler ∈ registry.handlers, handler.tag ≠ request.aggregateType) :
      Lacks request registry (.unknownAggregateType request.aggregateType)
  | snapshot (named : Text.trim request.eventName ≠ "")
      (handled : ∃ handler ∈ registry.handlers, handler.tag = request.aggregateType)
      (reason : String) (failed : request.payload = .error reason) :
      Lacks request registry (.serialization reason)

/-- An event has a record when it lacks nothing, and otherwise the error says what it lacks. What is
checked first is reported first: the name, the handler, the snapshot. -/
theorem record_cases (request : EnqueueRequest) (registry : Registry) (id : Identifier)
    (now : Timestamp) :
    (∃ payload, Text.trim request.eventName ≠ "" ∧
      (∃ handler ∈ registry.handlers, handler.tag = request.aggregateType) ∧
      request.payload = .ok payload ∧
      request.record registry id now = .ok (request.recordOf payload id now)) ∨
    ∃ error, request.record registry id now = .error error ∧ request.Lacks registry error := by
  rw [record]
  by_cases blank : Text.isBlank request.eventName = true
  · right
    rw [if_pos blank]
    exact ⟨_, rfl, .name ((Text.isBlank_iff _).mp blank)⟩
  have named : Text.trim request.eventName ≠ "" := mt (Text.isBlank_iff _).mpr blank
  rw [if_neg blank]
  by_cases handled : registry.contains request.aggregateType = true
  · obtain ⟨handler, member, tagged⟩ := (registry.contains_iff _).mp handled
    rw [handled]
    cases snapshot : request.payload with
    | error reason => exact .inr ⟨_, rfl, .snapshot named ⟨handler, member, tagged⟩ reason snapshot⟩
    | ok payload => exact .inl ⟨payload, named, ⟨handler, member, tagged⟩, rfl, rfl⟩
  · right
    rw [Bool.not_eq_true] at handled
    rw [handled]
    refine ⟨_, rfl, .handler named ?_⟩
    exact Registry.tag_ne_of_not_contains (by rw [handled]; exact Bool.false_ne_true)

/-- The record of an event says what the event says, and its kind has a handler. -/
theorem of_record_ok {record : EventRecord} (made : request.record registry id now = .ok record) :
    Text.trim request.eventName ≠ "" ∧
      (∃ handler ∈ registry.handlers, handler.tag = request.aggregateType) ∧
      ∃ payload, request.payload = .ok payload ∧ record = request.recordOf payload id now := by
  rcases request.record_cases registry id now with
    ⟨payload, named, handled, snapshot, made'⟩ | ⟨error, refused, _⟩
  · rw [made] at made'
    exact ⟨named, handled, payload, snapshot, Except.ok.inj made'⟩
  · rw [made] at refused
    cases refused

end EnqueueRequest

namespace UnitOfWork

variable {work grown : UnitOfWork} {registry : Registry} {request : EnqueueRequest}
  {id : Identifier} {now : Timestamp} {record : EventRecord} {error : EnqueueError}

/-- An event is enqueued as its record, which is staged behind the others. Nothing else is read or
written. -/
theorem enqueue_ok_iff : work.enqueue registry request id now = .ok (record, grown) ↔
    request.record registry id now = .ok record ∧ grown = work.insert record := by
  rw [enqueue]
  cases request.record registry id now with
  | error error =>
    constructor
    · intro enqueued
      cases enqueued
    · rintro ⟨made, _⟩
      cases made
  | ok made =>
    constructor
    · intro enqueued
      cases enqueued
      exact ⟨rfl, rfl⟩
    · rintro ⟨same, rfl⟩
      cases same
      rfl

/-- An event is refused when it has no record. -/
theorem enqueue_error_iff : work.enqueue registry request id now = .error error ↔
    request.record registry id now = .error error := by
  rw [enqueue]
  cases request.record registry id now with
  | error refusal => rw [Except.map, Except.error.injEq, Except.error.injEq]
  | ok made =>
    constructor
    · intro enqueued
      cases enqueued
    · intro refused
      cases refused

end UnitOfWork

/-! ## Delivery -/

section Handled

variable {registry : Registry} {record : EventRecord}

/-- A sender that has a handler for a record does not miss one. The handler may still refuse the
payload. -/
theorem Sender.envelope_handled {sender : Sender}
    (handled : ∃ handler ∈ sender.registry.handlers, handler.tag = record.aggregateType)
    (names : CategoryNames) (missing : RegistryError) :
    sender.envelope names record ≠ .error (.missingHandler missing) := by
  have contained := (sender.registry.contains_iff _).mpr handled
  obtain ⟨handler, found⟩ := Option.isSome_iff_exists.mp contained
  have resolved : sender.registry.resolve record.aggregateType = .ok handler := by
    rw [Registry.resolve, found]
  rw [envelope, resolved]
  change ((handler.prepare names record.payload).mapError DispatchError.payload >>= _) ≠ _
  cases handler.prepare names record.payload with
  | error refusal =>
    intro same
    cases same
  | ok prepared =>
    intro same
    cases same

/-- A delivery is never answered with a missing handler when the sender has one, whatever the broker
makes of the envelope. -/
theorem Site.answer_deliver_handled (site : Site) {sending : Sending}
    (handled : ∃ handler ∈ sending.sender.registry.handlers, handler.tag = record.aggregateType)
    (missing : RegistryError) :
    (site.answer sending (.deliver record)).1 ≠ .error (.missingHandler missing) := by
  have found := Sender.envelope_handled handled sending.names missing
  rw [answer_deliver, verdict]
  cases made : sending.sender.envelope sending.names record with
  | error error =>
    intro same
    cases same
    exact found made
  | ok envelope =>
    cases pushed : site.push sending.patience envelope with
    | error refusal =>
      intro same
      simp only [pushed] at same
      cases same
    | ok next =>
      intro same
      simp only [pushed] at same
      cases same

end Handled

end Outbox
