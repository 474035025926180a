import Outbox.Handler
import Outbox.Agreement.Snapshot

/-!
# Published agreements

Messages about a supplier's agreements are kept in order by the supplier's identifier. An agreement
that covers nothing is published only as a draft.
-/

namespace Outbox.Agreement

open Json Calendar

/-- What receivers learn about an agreement. -/
def message (agreement : Agreement) : Json :=
  .ofMembers <| [
    ("agreementId", agreement.id.json),
    ("supplierId", agreement.supplier.json),
    ("productIds", .array (agreement.products.map Identifier.json)),
    ("validFrom", agreement.validFrom.json),
    ("status", .string agreement.status.text)] ++
    optionalMember "validUntil" Date.json agreement.validUntil

/-- The handler for records about agreements. -/
def handler : Handler :=
  .reading .agreement 1 decode fun _ agreement =>
    if agreement.status ≠ .draft ∧ agreement.products.isEmpty then
      .error (.transform .agreement ("agreement " ++ agreement.id.text ++ " has no products"))
    else .ok (agreement.supplier.text, agreement.message)

end Outbox.Agreement
