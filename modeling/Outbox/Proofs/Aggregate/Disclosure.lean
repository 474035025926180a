import Outbox.Dispatch.Site
import Outbox.Proofs.Aggregate.Published
import Outbox.Proofs.Registry

/-!
# What messages disclose

A handler refuses a payload when it does not read as a snapshot of its kind, or when there is no
message for the snapshot. Neither depends on the names of categories, so waiting for other names
does not help a refused payload. What the names do decide is one member of a product's message. A
message in turn depends on the snapshot only as far as receivers may know it: payloads that read as
the same aggregate but for its private fields are published alike.
-/

namespace Outbox

open Json Calendar

section Reading

variable {Snapshot : Type} {tag : AggregateType} {version : Nat}
  {decode : Source → Decoded Snapshot}
  {convert : CategoryNames → Snapshot → Except HandlerError (String × Json)}

/-- A handler refuses what does not read as a snapshot, whatever names there are. -/
theorem Handler.prepare_unreadable {raw : Json} {fault : DecodeError}
    (unreadable : decode (source raw) = .error fault) (names : CategoryNames) :
    (Handler.reading tag version decode convert).prepare names raw =
      .error (.serialization tag fault.message) := by
  simp only [Handler.reading, unreadable]

/-- Payloads are prepared alike when they read as snapshots that are converted alike. -/
theorem Handler.prepare_alike {raw other : Json} {snapshot otherSnapshot : Snapshot}
    (read : decode (source raw) = .ok snapshot)
    (otherRead : decode (source other) = .ok otherSnapshot) {names : CategoryNames}
    (alike : convert names snapshot = convert names otherSnapshot) :
    (Handler.reading tag version decode convert).prepare names raw =
      (Handler.reading tag version decode convert).prepare names other := by
  rw [Handler.prepare_reading read, Handler.prepare_reading otherRead, alike]

end Reading

/-! ## Names of categories -/

/-- Whatever names there are, the messages of a product are the same but for the value of one
member, which is the name of its category where that is known and its code otherwise. -/
theorem Product.message_but_category (product : Product) :
    ∃ front back, ∀ names : CategoryNames, product.message names = .object (front ++
      ("category", .string ((names product.categoryCode).getD product.categoryCode)) :: back) :=
  ⟨[("approved", .bool (product.status = .approved))], _, product.message_eq⟩

/-- A payload that a handler refuses is refused under all names of categories, and for the same
reason. The names decide nothing but the value of one member in the messages of products: their
keys, their versions and all other members stay the same. Suppliers and agreements have no part in
categories at all. -/
theorem names_decide_only_category (raw : Json) (names others : CategoryNames) :
    (∀ error, Product.handler.prepare names raw = .error error ↔
      Product.handler.prepare others raw = .error error) ∧
    (∀ prepared, Product.handler.prepare names raw = .ok prepared →
      ∃ other code front back, Product.handler.prepare others raw = .ok other ∧
        other.partitionKey = prepared.partitionKey ∧ other.version = prepared.version ∧
        prepared.payload =
          .object (front ++ ("category", .string ((names code).getD code)) :: back) ∧
        other.payload =
          .object (front ++ ("category", .string ((others code).getD code)) :: back)) ∧
    Supplier.handler.prepare names raw = Supplier.handler.prepare others raw ∧
    Agreement.handler.prepare names raw = Agreement.handler.prepare others raw := by
  refine ⟨?_, ?_, rfl, rfl⟩
  · intro error
    cases read : Product.decode (source raw) with
    | error fault =>
      rw [Product.handler, Handler.prepare_unreadable read, Handler.prepare_unreadable read]
    | ok product =>
      rw [Product.handler, Handler.prepare_reading read, Handler.prepare_reading read]
      simp [Except.map]
  · intro prepared made
    cases read : Product.decode (source raw) with
    | error fault =>
      rw [Product.handler, Handler.prepare_unreadable read] at made
      cases made
    | ok product =>
      obtain ⟨front, back, written⟩ := product.message_but_category
      rw [Product.handler, Handler.prepare_reading read] at made ⊢
      cases made
      exact ⟨_, product.categoryCode, front, back, rfl, rfl, rfl, written names, written others⟩

/-- A pen of the category OFFICE. -/
def officePen : Product where
  id := .ofNumber 1
  supplier := .ofNumber 2
  gtin := "4006381333931"
  name := "Pen"
  categoryCode := "OFFICE"
  status := .approved
  rejectionReason := none
  reviewedBy := some (.ofNumber 3)
  updatedAt := default

/-- The pen is published under the name of its category and under the code alike, and with nothing
in place of the pen there is one refusal for all names. -/
theorem pen_under_code_and_name :
    let named : CategoryNames := fun _ => some "Office supplies"
    let unnamed : CategoryNames := fun _ => none
    (∃ prepared other code front back, Product.handler.prepare named officePen.json = .ok prepared ∧
      Product.handler.prepare unnamed officePen.json = .ok other ∧
      other.partitionKey = prepared.partitionKey ∧
      prepared.payload = .object (front ++ ("category", .string "Office supplies") :: back) ∧
      other.payload = .object (front ++ ("category", .string code) :: back)) ∧
    ∃ error, Product.handler.prepare named .null = .error error ∧
      Product.handler.prepare unnamed .null = .error error := by
  intro named unnamed
  obtain ⟨-, published, -⟩ := names_decide_only_category officePen.json named unnamed
  obtain ⟨refused, -⟩ := names_decide_only_category .null named unnamed
  constructor
  · obtain ⟨other, code, front, back, made, key, -, payload, otherPayload⟩ :=
      published _ (Handler.prepare_reading (Product.readsBack officePen) named)
    exact ⟨_, other, code, front, back, Handler.prepare_reading (Product.readsBack officePen) named,
      made, key, payload, otherPayload⟩
  · exact ⟨_, rfl, (refused _).mp rfl⟩

/-! ## Private fields -/

/-- Two payloads read as aggregates of a kind that are the same but for what receivers never learn:
who reviewed a product, the address of a supplier, and who signed an agreement and when it changed
last. -/
def SamePublic : AggregateType → Json → Json → Prop
  | .product, raw, other => ∃ product reviewer, Product.decode (source raw) = .ok product ∧
      Product.decode (source other) = .ok { product with reviewedBy := reviewer }
  | .supplier, raw, other => ∃ supplier address, Supplier.decode (source raw) = .ok supplier ∧
      Supplier.decode (source other) = .ok { supplier with contactEmail := address }
  | .agreement, raw, other => ∃ agreement signer moment,
      Agreement.decode (source raw) = .ok agreement ∧ Agreement.decode (source other) =
        .ok { agreement with signedBy := signer, updatedAt := moment }

/-- The handler of a kind prepares the same for payloads that are the same in public, or refuses
both for the same reason. -/
theorem SamePublic.prepare {kind : AggregateType} {raw other : Json}
    (alike : SamePublic kind raw other) {handler : Handler} (known : handler ∈ allHandlers)
    (handles : handler.tag = kind) (names : CategoryNames) :
    handler.prepare names raw = handler.prepare names other := by
  subst handles
  simp only [allHandlers, List.mem_cons, List.not_mem_nil, or_false] at known
  rcases known with rfl | rfl | rfl
  · obtain ⟨product, reviewer, read, otherRead⟩ := alike
    exact Handler.prepare_alike read otherRead rfl
  · obtain ⟨supplier, address, read, otherRead⟩ := alike
    exact Handler.prepare_alike read otherRead rfl
  · obtain ⟨agreement, signer, moment, read, otherRead⟩ := alike
    exact Handler.prepare_alike read otherRead rfl

/-- A sender makes the same envelope of records whose payloads are prepared alike by every handler
for their kind, if they are the same otherwise. -/
theorem Sender.envelope_alike {sender : Sender} {names : CategoryNames} {record : EventRecord}
    {raw other : Json}
    (alike : ∀ handler ∈ sender.registry.handlers, handler.tag = record.aggregateType →
      handler.prepare names raw = handler.prepare names other) :
    sender.envelope names { record with payload := raw } =
      sender.envelope names { record with payload := other } := by
  rw [Sender.envelope, Sender.envelope]
  cases resolved : sender.registry.resolve record.aggregateType with
  | error error => rfl
  | ok handler =>
    obtain ⟨registered, handles⟩ := Registry.mem_of_resolve resolved
    simp only [Except.mapError, bind, Except.bind, alike handler registered handles]

/-- Private fields are not published. Payloads that are the same in public are prepared alike by the
handler for their kind, which gives the same key, message and version or refuses both for the same
reason. Two records that are the same otherwise then get the same envelope under any names of
categories, and their deliveries have the same answer and the same effect at every site. -/
theorem private_fields_unpublished {kind : AggregateType} {raw other : Json}
    (alike : SamePublic kind raw other) :
    (∀ handler ∈ allHandlers, handler.tag = kind → ∀ names,
      handler.prepare names raw = handler.prepare names other) ∧
    ∀ (site : Site) (sending : Sending) (record : EventRecord), record.aggregateType = kind →
      (∀ handler ∈ sending.sender.registry.handlers, handler ∈ allHandlers) →
        sending.sender.envelope sending.names { record with payload := raw } =
          sending.sender.envelope sending.names { record with payload := other } ∧
        site.answer sending (.deliver { record with payload := raw }) =
          site.answer sending (.deliver { record with payload := other }) := by
  constructor
  · intro handler known handles names
    exact alike.prepare known handles names
  · intro site sending record ofKind standard
    have same : sending.sender.envelope sending.names { record with payload := raw } =
        sending.sender.envelope sending.names { record with payload := other } :=
      Sender.envelope_alike fun handler registered handles =>
        alike.prepare (standard handler registered) (handles.trans ofKind) sending.names
    refine ⟨same, ?_⟩
    rw [Site.answer, Site.answer, same]
    rfl

/-- A supplier with an address. -/
def acme : Supplier where
  id := .ofNumber 1
  legalName := "ACME Trading GmbH"
  registrationNumber := "HRB 12345"
  contactEmail := some "sales@acme.example"
  status := .active
  updatedAt := default

/-- The supplier without its address, as an array in the order of the fields. -/
def acmeListed : Json :=
  .array [acme.id.json, .string acme.legalName, .string acme.registrationNumber, .null,
    .string "active", acme.updatedAt.json]

/-- The supplier as it is stored and the array without the address are published alike, in the first
envelope that an empty site accepts. -/
theorem acme_published_without_address :
    let sending : Sending := ⟨⟨.complete, "registry"⟩, fun _ => none, .zero⟩
    let record : EventRecord := { (default : EventRecord) with aggregateType := .supplier }
    Supplier.handler.prepare sending.names acme.json =
        Supplier.handler.prepare sending.names acmeListed ∧
      Site.empty.answer sending (.deliver { record with payload := acme.json }) =
        Site.empty.answer sending (.deliver { record with payload := acmeListed }) ∧
      (Site.empty.answer sending (.deliver { record with payload := acmeListed })).1 = .ok () := by
  intro sending record
  have read : Supplier.decode (source acmeListed) = .ok { acme with contactEmail := none } := rfl
  have alike : SamePublic .supplier acme.json acmeListed :=
    ⟨acme, none, Supplier.readsBack acme, read⟩
  obtain ⟨prepared, delivered⟩ := private_fields_unpublished alike
  refine ⟨?_, ?_, rfl⟩
  · exact prepared Supplier.handler (by simp [allHandlers]) rfl sending.names
  · exact (delivered .empty sending record rfl fun _ registered => registered).2

end Outbox
