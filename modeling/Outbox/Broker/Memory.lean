import Outbox.Calendar.Duration
import Outbox.Envelope

/-!
# Brokers

A broker takes envelopes and acknowledges each one that it has accepted. The broker in memory keeps
what it accepted, in order. It can be told to reject the envelopes of some records and to take its
time for every answer. A push waits for the acknowledgement only so long; an envelope that is
acknowledged later counts as not accepted, and is not.
-/

namespace Outbox

/-- Why a broker does not accept an envelope. -/
inductive BrokerError
  | connection (reason : String)
  | rejected (reason : String)
  | serialization (reason : String)
  deriving DecidableEq, Repr

/-- The message of an error. -/
def BrokerError.message : BrokerError → String
  | .connection reason => "broker connection error: " ++ reason
  | .rejected reason => "broker rejected message: " ++ reason
  | .serialization reason => "envelope serialization error: " ++ reason

/-- Why a push fails. -/
inductive PushError
  /-- There was no acknowledgement in time. -/
  | timeout (patience : Duration)
  | broker (error : BrokerError)
  deriving DecidableEq, Repr

/-- The message of an error. -/
def PushError.message : PushError → String
  | .timeout patience => "broker did not acknowledge within " ++ patience.text
  | .broker error => error.message

/-- A broker in memory. -/
structure MemoryBroker where
  /-- The accepted envelopes, in order. -/
  published : List Envelope
  /-- The records whose envelopes are rejected. -/
  failing : List Identifier
  /-- How long every answer takes. -/
  latency : Option Duration

namespace MemoryBroker

/-- A broker that accepts everything at once. -/
def empty : MemoryBroker := ⟨[], [], none⟩

/-- Rejects the envelopes of a record from now on. -/
def failFor (broker : MemoryBroker) (event : Identifier) : MemoryBroker :=
  { broker with failing := event :: broker.failing }

/-- Accepts the envelopes of a record again. -/
def recover (broker : MemoryBroker) (event : Identifier) : MemoryBroker :=
  { broker with failing := broker.failing.filter (· ≠ event) }

/-- The number of accepted envelopes of a record. -/
def countFor (broker : MemoryBroker) (event : Identifier) : Nat :=
  broker.published.countP fun envelope => envelope.eventId = event

/-- Hands over an envelope and waits for the answer. -/
def send (broker : MemoryBroker) (envelope : Envelope) : Except BrokerError MemoryBroker :=
  if envelope.eventId ∈ broker.failing then
    .error (.rejected ("injected failure for " ++ envelope.eventId.text))
  else .ok { broker with published := broker.published ++ [envelope] }

/-- Whether an answer comes within a time. -/
def answersWithin (broker : MemoryBroker) (patience : Duration) : Bool :=
  ((broker.latency.getD .zero).nanos ≤ patience.nanos : Bool)

/-- Hands over an envelope and waits for the answer, but not for longer than a time. -/
def push (broker : MemoryBroker) (patience : Duration) (envelope : Envelope) :
    Except PushError MemoryBroker :=
  if broker.answersWithin patience then (broker.send envelope).mapError .broker
  else .error (.timeout patience)

end MemoryBroker

end Outbox
