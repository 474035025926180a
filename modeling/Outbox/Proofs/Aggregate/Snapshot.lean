import Outbox.Agreement.Snapshot
import Outbox.Product.Snapshot
import Outbox.Proofs.Calendar.Written
import Outbox.Proofs.Identifier
import Outbox.Proofs.Json.Records
import Outbox.Supplier.Snapshot

/-!
# Stored snapshots read back

The snapshot that a record stores of a product, a supplier or an agreement is read back as the very
same aggregate, whatever values its fields have. A member that is null and one that is left out are
read alike.
-/

namespace Outbox

open Json

/-! ## Fields -/

/-- An identifier is read back from its JSON text, which is its written form. -/
theorem Identifier.readsBack : ReadsBack Identifier.json Identifier.decode := by
  intro identifier
  rw [decode, json, decodeStringFor_source]
  simp only [bind, Except.bind, parse_text]
  rfl

/-- A date is read back from its JSON text, in whichever year of the calendar it lies. -/
theorem Calendar.Date.readsBack : ReadsBack Date.json Date.decode := by
  intro date
  rw [decode, json, decodeStringFor_source]
  simp only [bind, Except.bind, parse_text]
  rfl

/-- A moment is read back from its JSON text with all its nanoseconds, leap seconds included. -/
theorem Calendar.Timestamp.readsBack : ReadsBack Timestamp.json Timestamp.decode := by
  intro moment
  rw [decode, json, decodeStringFor_source]
  simp only [bind, Except.bind, parse_text]
  rfl

/-- The stage of a product is known by its name. -/
theorem ProductStatus.readsBack (status : ProductStatus) :
    decodeNamed ProductStatus.all (source (.string status.text)) = .ok status := by
  cases status <;> rfl

/-- The stage of a supplier is known by its name. -/
theorem SupplierStatus.readsBack (status : SupplierStatus) :
    decodeNamed SupplierStatus.all (source (.string status.text)) = .ok status := by
  cases status <;> rfl

/-- The stage of an agreement is known by its name. -/
theorem AgreementStatus.readsBack (status : AgreementStatus) :
    decodeNamed AgreementStatus.all (source (.string status.text)) = .ok status := by
  cases status <;> rfl

/-- A text that may be missing is written as `null` where it is, and read back either way. -/
theorem readsBack_optionalString : ReadsBack (ofOption .string) (decodeOption decodeString) :=
  readsBack_option readsBack_string fun _ => Json.noConfusion

/-- An identifier that may be missing is read back either way. -/
theorem readsBack_optionalIdentifier :
    ReadsBack (ofOption Identifier.json) (decodeOption Identifier.decode) :=
  readsBack_option Identifier.readsBack fun _ => Json.noConfusion

/-- A date that may be missing is read back either way. -/
theorem readsBack_optionalDate :
    ReadsBack (ofOption Calendar.Date.json) (decodeOption Calendar.Date.decode) :=
  readsBack_option Calendar.Date.readsBack fun _ => Json.noConfusion

/-! ## Aggregates -/

/-- A supplier is read back from its snapshot. Every field of the layout finds its member in what
was written, and no member stands there twice. -/
theorem Supplier.readsBack : ReadsBack Supplier.json Supplier.decode := by
  intro supplier
  have id := Identifier.readsBack supplier.id
  have legalName := readsBack_string supplier.legalName
  have registrationNumber := readsBack_string supplier.registrationNumber
  have contactEmail := readsBack_optionalString supplier.contactEmail
  have status := SupplierStatus.readsBack supplier.status
  have updatedAt := Calendar.Timestamp.readsBack supplier.updatedAt
  obtain ⟨fields, read, found⟩ := layout.fieldsOf_written (Supplier.json.eq_1 supplier) (by simp)
    (by simp [Layout.Takes, layout, Field.required, Field.optional, Except.map, id, legalName,
      registrationNumber, contactEmail, status, updatedAt])
  simp only [layout, Field.required, Field.optional, List.forall_mem_cons, lookUp?, String.reduceEq,
    if_true, if_false, Option.map_some] at found
  simp only [decode, read, bind, Except.bind, Fields.required, Fields.optional, found, id,
    legalName, registrationNumber, contactEmail, status, updatedAt]
  rfl

/-- An agreement is read back from its snapshot, its products in the order in which they were added.
-/
theorem Agreement.readsBack : ReadsBack Agreement.json Agreement.decode := by
  intro agreement
  have id := Identifier.readsBack agreement.id
  have supplier := Identifier.readsBack agreement.supplier
  have products := readsBack_list Identifier.readsBack agreement.products
  have validFrom := Calendar.Date.readsBack agreement.validFrom
  have validUntil := readsBack_optionalDate agreement.validUntil
  have status := AgreementStatus.readsBack agreement.status
  have signedBy := readsBack_optionalIdentifier agreement.signedBy
  have updatedAt := Calendar.Timestamp.readsBack agreement.updatedAt
  obtain ⟨fields, read, found⟩ := layout.fieldsOf_written (Agreement.json.eq_1 agreement) (by simp)
    (by simp [Layout.Takes, layout, Field.required, Field.optional, Except.map, id, supplier,
      products, validFrom, validUntil, status, signedBy, updatedAt])
  simp only [layout, Field.required, Field.optional, List.forall_mem_cons, lookUp?, String.reduceEq,
    if_true, if_false, Option.map_some] at found
  simp only [decode, read, bind, Except.bind, Fields.required, Fields.optional, found, id, supplier,
    products, validFrom, validUntil, status, signedBy, updatedAt]
  rfl

/-- A product is read back from its snapshot, the fields that are never published among the others.
-/
theorem Product.readsBack : ReadsBack Product.json Product.decode := by
  intro product
  have id := Identifier.readsBack product.id
  have supplier := Identifier.readsBack product.supplier
  have gtin := readsBack_string product.gtin
  have name := readsBack_string product.name
  have categoryCode := readsBack_string product.categoryCode
  have status := ProductStatus.readsBack product.status
  have reason (text : String) :
      decodeOption decodeString (source (.string text)) = .ok (some text) :=
    readsBack_optionalString (some text)
  have reviewer (user : Identifier) :
      decodeOption Identifier.decode (source user.json) = .ok (some user) :=
    readsBack_optionalIdentifier (some user)
  have updatedAt := Calendar.Timestamp.readsBack product.updatedAt
  obtain ⟨fields, read, found⟩ := layout.fieldsOf_written (Product.json.eq_1 product)
    (by cases product.rejectionReason <;> cases product.reviewedBy <;> simp [optionalMember])
    (by
      cases product.rejectionReason <;> cases product.reviewedBy <;>
      simp [Layout.Takes, layout, Field.required, Field.optional, Except.map, optionalMember, id,
        supplier, gtin, name, categoryCode, status, reason, reviewer, updatedAt])
  simp only [layout, Field.required, Field.optional, List.forall_mem_cons, lookUp?_append,
    lookUp?_optionalMember, lookUp?, String.reduceEq, if_true, if_false, Option.or_none,
    Option.none_or, Option.map_some] at found
  have optional := found
  obtain ⟨_, _, _, _, _, _, reasonFound, reviewerFound, _⟩ := optional
  have rejectionReason := Fields.optional_map readsBack_optionalString reasonFound
  have reviewedBy := Fields.optional_map readsBack_optionalIdentifier reviewerFound
  simp only [decode, read, bind, Except.bind, Fields.required, found, id, supplier, gtin, name,
    categoryCode, status, rejectionReason, reviewedBy, updatedAt]
  rfl

end Outbox
