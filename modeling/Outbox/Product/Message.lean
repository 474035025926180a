import Outbox.Handler
import Outbox.Product.Snapshot

/-!
# Published products

Messages about a product are kept in order by its trade item number. Receivers learn the name of
the category instead of its code where the name is known, and whether the product is approved, but
not who reviewed it.
-/

namespace Outbox.Product

/-- What receivers learn about a product. -/
def message (names : CategoryNames) (product : Product) : Json :=
  .ofMembers <| [
    ("productId", product.id.json),
    ("supplierId", product.supplier.json),
    ("gtin", .string product.gtin),
    ("name", .string product.name),
    ("category", .string ((names product.categoryCode).getD product.categoryCode)),
    ("approved", .bool (product.status = .approved)),
    ("updatedAt", product.updatedAt.json)] ++
    Json.optionalMember "rejectionReason" .string product.rejectionReason

/-- The handler for records about products. -/
def handler : Handler :=
  .reading .product 2 decode fun names product => .ok (product.gtin, product.message names)

end Outbox.Product
