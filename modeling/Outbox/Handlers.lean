import Outbox.Agreement.Message
import Outbox.Product.Message
import Outbox.Registry
import Outbox.Supplier.Message

/-!
# The handlers of all kinds

Every kind of aggregate has its handler, so no record is without one.
-/

namespace Outbox

/-- The handlers, in the order in which they are registered. -/
def allHandlers : List Handler := [Product.handler, Supplier.handler, Agreement.handler]

/-- The registry of all handlers. -/
def Registry.complete : Registry where
  handlers := allHandlers
  distinct := by
    simp [allHandlers, Product.handler, Supplier.handler, Agreement.handler, Handler.reading]

example : Registry.complete.ensureComplete AggregateType.all = .ok () := rfl

end Outbox
