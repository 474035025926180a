import Outbox.Supplier.Basic

/-!
# Stored suppliers

An outbox record stores a supplier as a JSON object with one member per field. The address is null
when there is none.
-/

namespace Outbox.Supplier

open Json

/-- A supplier as a JSON value. -/
def json (supplier : Supplier) : Json :=
  .ofMembers [
    ("id", supplier.id.json),
    ("legal_name", .string supplier.legalName),
    ("registration_number", .string supplier.registrationNumber),
    ("contact_email", ofOption .string supplier.contactEmail),
    ("status", .string supplier.status.text),
    ("updated_at", supplier.updatedAt.json)]

/-- The form of a stored supplier. -/
def layout : Layout where
  name := "SupplierDto"
  fields := [
    .required "id" Identifier.decode,
    .required "legal_name" decodeString,
    .required "registration_number" decodeString,
    .optional "contact_email" decodeString,
    .required "status" (decodeNamed SupplierStatus.all),
    .required "updated_at" Calendar.Timestamp.decode]

/-- A supplier from JSON. -/
def decode (source : Source) : Decoded Supplier := do
  let fields ← layout.fieldsOf source
  return {
    id := ← fields.required "id" Identifier.decode
    legalName := ← fields.required "legal_name" decodeString
    registrationNumber := ← fields.required "registration_number" decodeString
    contactEmail := ← fields.optional "contact_email" decodeString
    status := ← fields.required "status" (decodeNamed SupplierStatus.all)
    updatedAt := ← fields.required "updated_at" Calendar.Timestamp.decode }

instance : Json.Codec Supplier := ⟨json, decode⟩

end Outbox.Supplier
