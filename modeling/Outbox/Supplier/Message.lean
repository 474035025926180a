import Outbox.Handler
import Outbox.Supplier.Snapshot

/-!
# Published suppliers

Messages about a supplier are kept in order by its identifier. Its address stays private.
-/

namespace Outbox.Supplier

/-- What receivers learn about a supplier. -/
def message (supplier : Supplier) : Json :=
  .ofMembers [
    ("supplierId", supplier.id.json),
    ("legalName", .string supplier.legalName),
    ("registrationNumber", .string supplier.registrationNumber),
    ("active", .bool (supplier.status = .active)),
    ("updatedAt", supplier.updatedAt.json)]

/-- The handler for records about suppliers. -/
def handler : Handler :=
  .reading .supplier 1 decode fun _ supplier => .ok (supplier.id.text, supplier.message)

end Outbox.Supplier
