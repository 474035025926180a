import Outbox.Agreement.Basic

/-!
# Stored agreements

An outbox record stores an agreement as a JSON object with one member per field. The end and the
signer are null when there are none.
-/

namespace Outbox.Agreement

open Json Calendar

/-- An agreement as a JSON value. -/
def json (agreement : Agreement) : Json :=
  .ofMembers [
    ("id", agreement.id.json),
    ("supplier_id", agreement.supplier.json),
    ("product_ids", .array (agreement.products.map Identifier.json)),
    ("valid_from", agreement.validFrom.json),
    ("valid_until", ofOption Date.json agreement.validUntil),
    ("status", .string agreement.status.text),
    ("signed_by", ofOption Identifier.json agreement.signedBy),
    ("updated_at", agreement.updatedAt.json)]

/-- The form of a stored agreement. -/
def layout : Layout where
  name := "AgreementDto"
  fields := [
    .required "id" Identifier.decode,
    .required "supplier_id" Identifier.decode,
    .required "product_ids" (decodeList Identifier.decode),
    .required "valid_from" Date.decode,
    .optional "valid_until" Date.decode,
    .required "status" (decodeNamed AgreementStatus.all),
    .optional "signed_by" Identifier.decode,
    .required "updated_at" Timestamp.decode]

/-- An agreement from JSON. -/
def decode (source : Source) : Decoded Agreement := do
  let fields ← layout.fieldsOf source
  return {
    id := ← fields.required "id" Identifier.decode
    supplier := ← fields.required "supplier_id" Identifier.decode
    products := ← fields.required "product_ids" (decodeList Identifier.decode)
    validFrom := ← fields.required "valid_from" Date.decode
    validUntil := ← fields.optional "valid_until" Date.decode
    status := ← fields.required "status" (decodeNamed AgreementStatus.all)
    signedBy := ← fields.optional "signed_by" Identifier.decode
    updatedAt := ← fields.required "updated_at" Timestamp.decode }

instance : Json.Codec Agreement := ⟨json, decode⟩

end Outbox.Agreement
