import Outbox.Product.Basic

/-!
# Stored products

An outbox record stores a product as a JSON object with one member per field. The reason of a
rejection and the reviewer are left out when there are none.
-/

namespace Outbox.Product

open Json

/-- A product as a JSON value. -/
def json (product : Product) : Json :=
  .ofMembers <| [
    ("id", product.id.json),
    ("supplier_id", product.supplier.json),
    ("gtin", .string product.gtin),
    ("name", .string product.name),
    ("category_code", .string product.categoryCode),
    ("status", .string product.status.text),
    ("updated_at", product.updatedAt.json)] ++
    optionalMember "rejection_reason" .string product.rejectionReason ++
    optionalMember "reviewed_by" Identifier.json product.reviewedBy

/-- The form of a stored product. -/
def layout : Layout where
  name := "ProductDto"
  fields := [
    .required "id" Identifier.decode,
    .required "supplier_id" Identifier.decode,
    .required "gtin" decodeString,
    .required "name" decodeString,
    .required "category_code" decodeString,
    .required "status" (decodeNamed ProductStatus.all),
    .optional "rejection_reason" decodeString,
    .optional "reviewed_by" Identifier.decode,
    .required "updated_at" Calendar.Timestamp.decode]

/-- A product from JSON. -/
def decode (source : Source) : Decoded Product := do
  let fields ← layout.fieldsOf source
  return {
    id := ← fields.required "id" Identifier.decode
    supplier := ← fields.required "supplier_id" Identifier.decode
    gtin := ← fields.required "gtin" decodeString
    name := ← fields.required "name" decodeString
    categoryCode := ← fields.required "category_code" decodeString
    status := ← fields.required "status" (decodeNamed ProductStatus.all)
    rejectionReason := ← fields.optional "rejection_reason" decodeString
    reviewedBy := ← fields.optional "reviewed_by" Identifier.decode
    updatedAt := ← fields.required "updated_at" Calendar.Timestamp.decode }

instance : Json.Codec Product := ⟨json, decode⟩

end Outbox.Product
