import Outbox.Broker.Memory
import Outbox.Registry

/-!
# One delivery

To deliver a record, the handler for its kind prepares the message, and the envelope around it is
pushed to the broker. A failure is either the record's own and stays, or the broker's and may pass.
-/

namespace Outbox

/-- Why a record is not delivered. -/
inductive DispatchError
  | missingHandler (error : RegistryError)
  | payload (error : HandlerError)
  | push (error : PushError)
  deriving DecidableEq, Repr

/-- The message of an error. -/
def DispatchError.message : DispatchError → String
  | .missingHandler error => error.message
  | .payload error => error.message
  | .push error => error.message

/-- The sender of envelopes: its handlers and the name under which it sends. -/
structure Sender where
  registry : Registry
  producer : String

/-- The envelope for a record under the category names of the moment. -/
def Sender.envelope (sender : Sender) (names : CategoryNames) (record : EventRecord) :
    Except DispatchError Envelope := do
  let handler ← (sender.registry.resolve record.aggregateType).mapError .missingHandler
  let prepared ← (handler.prepare names record.payload).mapError .payload
  return {
    routingKey := prepared.partitionKey
    eventName := record.eventName
    payload := prepared.payload
    metadata := mergeMetadata sender.producer prepared.version record.extraMetadata
    eventId := record.id }

/-- Delivers a record through a broker in memory. -/
def Sender.deliver (sender : Sender) (names : CategoryNames) (patience : Duration)
    (broker : MemoryBroker) (record : EventRecord) : Except DispatchError MemoryBroker := do
  let envelope ← sender.envelope names record
  (broker.push patience envelope).mapError .push

end Outbox
