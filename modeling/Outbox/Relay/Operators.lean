import Outbox.Relay.Basic
import Outbox.Relay.Response
import Outbox.Relay.Route

/-!
# Answers to operators

Operators see whether the relay is alive, how the backlog stands and which records are parked, and
can let a parked record be tried again. A path that exists but not for the method is told apart
from one that does not exist.
-/

namespace Outbox.Relay

open Calendar

/-- The state of the backlog at a moment. -/
def statsResponse (relay : Relay) (now : Timestamp) : Response × Relay :=
  match relay.site.call .statistics with
  | (.error error, site) => (.ofStoreError error, { relay with site })
  | (.ok statistics, site) =>
    match site.call .parked with
    | (.error error, site) => (.ofStoreError error, { relay with site })
    | (.ok parked, site) =>
      (.ofJson 200 (.ofMembers [
        ("pending", .count statistics.pending),
        ("sent", .count statistics.sent),
        ("parked", .count parked.length),
        ("oldestPendingCreated", Json.ofOption Timestamp.json statistics.oldestPendingCreated),
        ("oldestPendingAgeSecs", Json.ofOption Json.integer (statistics.oldestPendingAge now)),
        ("isLeader", .bool relay.isLeader)]), { relay with site })

/-- The parked deliveries. -/
def parkedResponse (relay : Relay) : Response × Relay :=
  match relay.site.call .parked with
  | (.error error, site) => (.ofStoreError error, { relay with site })
  | (.ok parked, site) =>
    (.ofJson 200 (.array (parked.map Delivery.json)), { relay with site })

/-- Lets a parked record be tried again from a moment on. -/
def requeueResponse (relay : Relay) (segment : List Char) (now : Timestamp) : Response × Relay :=
  match recordOf? segment with
  | none => (⟨400, .text, none⟩, relay)
  | some event =>
    match relay.site.call (.requeue event now) with
    | (.error error, site) => (.ofStoreError error, { relay with site })
    | (.ok true, site) => (.ofStatus 204, { relay with site })
    | (.ok false, site) =>
      (.error 404 "not_parked" (event.text ++ " is not parked"), { relay with site })

/-- The response to what an operator asks for. -/
def respond (relay : Relay) (route : Route) (now : Timestamp) : Response × Relay :=
  match route with
  | .health => (.ofStatus 200, relay)
  | .stats => relay.statsResponse now
  | .parked => relay.parkedResponse
  | .requeue segment => relay.requeueResponse segment now

/-- The response to a request, and the relay afterwards. -/
def handle (relay : Relay) (method address : String) (now : Timestamp) : Response × Relay :=
  match Route.ofAddress? address with
  | none => (.ofStatus 404, relay)
  | some route =>
    if !route.methods.contains method then
      (⟨405, .empty, some (String.intercalate "," route.methods)⟩, relay)
    else
      let (response, relay) := relay.respond route now
      (if method = "HEAD" then response.withoutBody else response, relay)

end Outbox.Relay
