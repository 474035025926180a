import Outbox.Delivery
import Outbox.Envelope
import Outbox.Proofs.Aggregate.Snapshot

/-!
# One written form for what is stored and sent

Records, deliveries, messages and the three snapshots are written in one way each and read in many:
members come in any order and may be unknown, options may be null or left out, and an array may list
the fields. What is written is read back as it was. So whatever is read, however it is spelled, is
read again from the form that is written for it, and this form is written for itself.
-/

namespace Outbox

open Json

/-! ## Settled forms -/

namespace Json

variable {Value : Type} {encode : Value → Json} {decode : Source → Decoded Value}

/-- What is written for the value that is read, if one is read. -/
def rewritten (encode : Value → Json) (decode : Source → Decoded Value) (spelled : Source) :
    Decoded Json :=
  (decode spelled).map encode

/-- A value has one written form, whatever it has been read from. -/
structure Settles (encode : Value → Json) (decode : Source → Decoded Value) : Prop where
  /-- The written form is read as the value that it was written for. -/
  reads_again : ∀ {spelled : Source} {value : Value}, decode spelled = .ok value →
    decode (source (encode value)) = .ok value
  /-- Writing what is read from the written form writes it again. -/
  writes_again : ∀ {spelled : Source} {written : Json},
    rewritten encode decode spelled = .ok written →
      rewritten encode decode (source written) = .ok written

/-- A form settles when everything that can be read is read again from what is written for it. -/
theorem Settles.of_reads_again
    (again : ∀ {spelled value}, decode spelled = .ok value →
      decode (source (encode value)) = .ok value) : Settles encode decode := by
  refine ⟨again, ?_⟩
  intro spelled written rewrites
  rw [rewritten] at rewrites
  cases read : decode spelled with
  | error fault =>
    rw [read] at rewrites
    cases rewrites
  | ok value =>
    rw [read] at rewrites
    cases rewrites
    rw [rewritten, again read]
    rfl

/-- What is read back from its written form settles: reading and writing once more changes nothing.
-/
theorem ReadsBack.settles (reads : ReadsBack encode decode) : Settles encode decode :=
  .of_reads_again fun _ => reads _

end Json

/-! ## Fields -/

/-- A kind of aggregate is read back from its name. -/
theorem AggregateType.readsBack :
    ReadsBack (fun kind : AggregateType => .string kind.text) (decodeNamed known) := by
  intro kind
  cases kind <;> rfl

/-- A status is read back from its name. -/
theorem EventStatus.readsBack :
    ReadsBack (fun status : EventStatus => .string status.text) (decodeNamed known) := by
  intro status
  cases status <;> rfl

/-- A truth value is read back. -/
theorem Json.readsBack_bool : ReadsBack .bool decodeBool :=
  fun _ => rfl

/-- Metadata are read back with all their entries. -/
theorem Json.readsBack_metadata :
    ReadsBack (fun metadata : Metadata => .object metadata.entries) (decodeMap decodeJson) := by
  intro metadata
  refine decodeMap_eq_ok_iff.mpr ⟨metadata.entries, rfl, ?_⟩
  rw [Dictionary.ofList_entries]

/-- A count that has room is read back. -/
theorem Json.decodeUnsigned_count {bits value : Nat} (below : value < Nat.pow 2 bits) :
    decodeUnsigned bits (source (.count value)) = .ok value := by
  have fits : (0 : Int) ≤ value ∧ (value : Int) < (Nat.pow 2 bits : Int) :=
    ⟨Int.natCast_nonneg value, Int.ofNat_lt.mpr below⟩
  change (if (0 : Int) ≤ value ∧ (value : Int) < (Nat.pow 2 bits : Int)
    then Except.ok (value : Int).toNat else _) = _
  rw [if_pos fits, Int.toNat_natCast]

/-- A count that is read has room in its type. Together with the other direction this says which
counts survive being written. -/
theorem Json.lt_of_decodeUnsigned {bits value : Nat} {spelled : Source}
    (read : decodeUnsigned bits spelled = .ok value) : value < Nat.pow 2 bits := by
  rw [decodeUnsigned] at read
  cases shaped : spelled.shape with
  | error fault =>
    rw [shaped] at read
    cases read
  | ok shape =>
    rw [shaped] at read
    cases shape with
    | number held =>
      cases held with
      | integer held =>
        change (if 0 ≤ held ∧ held < (Nat.pow 2 bits : Int) then Except.ok held.toNat else _) =
          Except.ok value at read
        split at read
        · next fits =>
          cases read
          exact Int.toNat_lt fits.1 |>.mpr fits.2
        · cases read
      | float held => cases read
    | _ => cases read

/-! ## Records, messages and deliveries -/

/-- A record is read back from its written form, field by field. Nothing is asked of the record: its
metadata may hold any keys, since they are an object of their own. -/
theorem EventRecord.readsBack : ReadsBack EventRecord.json EventRecord.decode := by
  intro record
  have id := Identifier.readsBack record.id
  have aggregate := Identifier.readsBack record.aggregate
  have aggregateType := AggregateType.readsBack record.aggregateType
  have status := EventStatus.readsBack record.status
  have eventName := readsBack_string record.eventName
  have byUser := Identifier.readsBack record.byUser
  have extraMetadata := readsBack_metadata record.extraMetadata
  have payload : decodeJson (source record.payload) = .ok record.payload :=
    readsBack_json record.payload
  have created := Calendar.Timestamp.readsBack record.created
  have updated := Calendar.Timestamp.readsBack record.updated
  obtain ⟨fields, read, found⟩ := layout.fieldsOf_written (EventRecord.json.eq_1 record) (by simp)
    (by simp [Layout.Takes, layout, Field.check_required id, Field.check_required aggregate,
      Field.check_required aggregateType, Field.check_required status,
      Field.check_required eventName, Field.check_required byUser,
      Field.check_required extraMetadata, Field.check_required payload,
      Field.check_required created, Field.check_required updated])
  simp only [layout, Field.name_required, List.forall_mem_cons, lookUp?, String.reduceEq, if_true,
    if_false, Option.map_some] at found
  simp only [decode, read, ok_bind, Fields.required, found, id, aggregate, aggregateType, status,
    eventName, byUser, extraMetadata, payload, created, updated]
  rfl

/-- An envelope is read back from its written form, field by field, with a payload of any shape. -/
theorem Envelope.readsBack : ReadsBack Envelope.json Envelope.decode := by
  intro envelope
  have routingKey := readsBack_string envelope.routingKey
  have eventName := readsBack_string envelope.eventName
  have payload : decodeJson (source envelope.payload) = .ok envelope.payload :=
    readsBack_json envelope.payload
  have metadata := readsBack_metadata envelope.metadata
  have eventId := Identifier.readsBack envelope.eventId
  obtain ⟨fields, read, found⟩ := layout.fieldsOf_written (Envelope.json.eq_1 envelope)
    (by simp [members])
    (by simp [members, Layout.Takes, layout, Field.check_required routingKey,
      Field.check_required eventName, Field.check_required payload,
      Field.check_required metadata, Field.check_required eventId])
  simp only [members, layout, Field.name_required, List.forall_mem_cons, lookUp?, String.reduceEq,
    if_true, if_false, Option.map_some] at found
  simp only [decode, read, ok_bind, Fields.required, found, routingKey, eventName, payload,
    metadata, eventId]
  rfl

/-- A delivery is read back as long as its attempts are counted in 32 bits. A larger count can be
written but not read. -/
theorem Delivery.decode_json {delivery : Delivery} (counted : delivery.attempts < Nat.pow 2 32) :
    decode (source delivery.json) = .ok delivery := by
  have event := Identifier.readsBack delivery.event
  -- From here on the reader of the count stays folded, for to evaluate it on an open number is to
  -- count down from its bound.
  have attempts := decodeUnsigned_count counted
  have lastError := readsBack_string delivery.lastError
  have nextAttemptAt := Calendar.Timestamp.readsBack delivery.nextAttemptAt
  have parked := readsBack_bool delivery.parked
  obtain ⟨fields, read, found⟩ := layout.fieldsOf_written (Delivery.json.eq_1 delivery) (by simp)
    (by simp [Layout.Takes, layout, Field.check_required event, Field.check_required attempts,
      Field.check_required lastError, Field.check_required nextAttemptAt,
      Field.check_required parked])
  simp only [layout, Field.name_required, List.forall_mem_cons, lookUp?, String.reduceEq, if_true,
    if_false, Option.map_some] at found
  simp only [decode, read, ok_bind, Fields.required, found, event, attempts, lastError,
    nextAttemptAt, parked]
  rfl

/-- The attempts of a delivery that is read are counted in 32 bits. -/
theorem Delivery.attempts_of_decode {spelled : Source} {delivery : Delivery}
    (read : decode spelled = .ok delivery) : delivery.attempts < Nat.pow 2 32 := by
  obtain ⟨fields, _, read⟩ := ok_of_bind read
  obtain ⟨_, _, read⟩ := ok_of_bind read
  obtain ⟨attempts, counted, read⟩ := ok_of_bind read
  obtain ⟨_, _, read⟩ := ok_of_bind read
  obtain ⟨_, _, read⟩ := ok_of_bind read
  obtain ⟨_, _, read⟩ := ok_of_bind read
  cases read
  rw [Fields.required] at counted
  split at counted
  · exact lt_of_decodeUnsigned counted
  · cases counted

/-! ## One written form -/

/-- Records, deliveries whose attempts are counted in 32 bits, messages and the snapshots of
products, suppliers and agreements are read back as they were from the JSON value that is written
for them. Whatever is read as one of them, from a JSON value or a text in any spelling, is read
again from what is written for it, and this is written for itself. -/
theorem one_written_form :
    (ReadsBack EventRecord.json EventRecord.decode ∧
      (∀ delivery : Delivery, delivery.attempts < Nat.pow 2 32 →
        Delivery.decode (source delivery.json) = .ok delivery) ∧
      ReadsBack Envelope.json Envelope.decode ∧
      ReadsBack Product.json Product.decode ∧
      ReadsBack Supplier.json Supplier.decode ∧
      ReadsBack Agreement.json Agreement.decode) ∧
    Settles EventRecord.json EventRecord.decode ∧
    Settles Delivery.json Delivery.decode ∧
    Settles Envelope.json Envelope.decode ∧
    Settles Product.json Product.decode ∧
    Settles Supplier.json Supplier.decode ∧
    Settles Agreement.json Agreement.decode := by
  have delivery : Settles Delivery.json Delivery.decode :=
    .of_reads_again fun read => Delivery.decode_json (Delivery.attempts_of_decode read)
  constructor
  · exact ⟨EventRecord.readsBack, fun _ => Delivery.decode_json, Envelope.readsBack,
      Product.readsBack, Supplier.readsBack, Agreement.readsBack⟩
  · exact ⟨EventRecord.readsBack.settles, delivery, Envelope.readsBack.settles,
      Product.readsBack.settles, Supplier.readsBack.settles, Agreement.readsBack.settles⟩

/-- A delivery with as many attempts as 32 bits count. -/
def worstDelivery : Delivery where
  event := .ofNumber 11
  attempts := 4294967295
  lastError := "broker down"
  nextAttemptAt := ⟨1709294400, 125000000, by decide⟩
  parked := true

/-- A product under review that was looked at before. -/
def cheese : Product where
  id := .ofNumber 11
  supplier := .ofNumber 12
  gtin := "4006381333931"
  name := "Cheese"
  categoryCode := "10"
  status := .submitted
  rejectionReason := none
  reviewedBy := some (.ofNumber 13)
  updatedAt := ⟨1709294400, 125000000, by decide⟩

/-- The product as an array of its fields, with a null for the missing reason, identifiers in other
forms and its time at another offset. -/
def cheeseListed : Json :=
  .array [
    .string "0000000000000000000000000000000B",
    .string "urn:uuid:00000000-0000-0000-0000-00000000000c",
    .string "4006381333931",
    .string "Cheese",
    .string "10",
    .object [("submitted", .null)],
    .null,
    .string "00000000-0000-0000-0000-00000000000D",
    .string "2024-03-01T13:00:00.125+01:00"]

/-- The product as an object in another order, with an unknown member and without a reason. -/
def cheeseAnnotated : Json :=
  .object [
    ("updated_at", .string "2024-03-01T12:00:00.125000Z"),
    ("note", .array [.null]),
    ("status", .string "submitted"),
    ("category_code", .string "10"),
    ("name", .string "Cheese"),
    ("gtin", .string "4006381333931"),
    ("supplier_id", .string "00000000-0000-0000-0000-00000000000c"),
    ("reviewed_by", .string "00000000-0000-0000-0000-00000000000d"),
    ("id", .string "00000000-0000-0000-0000-00000000000b")]

/-- The delivery is read back, and both spellings of the product are settled by the same value. The
first spelling lists the fields without their names, with identifiers in other forms and the time at
another offset. The second has its members in another order, leaves one out and adds an unknown one.
-/
theorem cheese_written_once :
    worstDelivery.attempts < Nat.pow 2 32 ∧
      Delivery.decode (source worstDelivery.json) = .ok worstDelivery ∧
      rewritten Product.json Product.decode (source cheeseListed) = .ok cheese.json ∧
      rewritten Product.json Product.decode (source cheeseAnnotated) = .ok cheese.json ∧
      Product.decode (source cheese.json) = .ok cheese ∧
      rewritten Product.json Product.decode (source cheese.json) = .ok cheese.json := by
  obtain ⟨⟨_, deliveries, _⟩, _, _, _, products, _⟩ := one_written_form
  have counted : worstDelivery.attempts < Nat.pow 2 32 := by decide
  have readListed : Product.decode (source cheeseListed) = .ok cheese :=
    ok_of_toOption (by decide +kernel)
  have readAnnotated : Product.decode (source cheeseAnnotated) = .ok cheese :=
    ok_of_toOption (by decide +kernel)
  have writtenListed : rewritten Product.json Product.decode (source cheeseListed) =
      .ok cheese.json := by
    rw [rewritten, readListed]
    rfl
  refine ⟨counted, deliveries worstDelivery counted, writtenListed, ?_,
    products.reads_again readListed, products.writes_again writtenListed⟩
  rw [rewritten, readAnnotated]
  rfl

end Outbox
