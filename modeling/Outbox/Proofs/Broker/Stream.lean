import Outbox.Broker.Stream
import Mathlib.Data.List.Chain

/-!
# What a stream gets

A broker posts one envelope after the other, and the server answers every request as it likes.
`StreamBroker.posted_goes` says how the posting of an envelope can go. What holds of each envelope,
whatever became of those before it, follows from it alone (`Posted.Lawful`). How the connection
passes from one envelope to the next (`Posted.Reconnecting`) follows by induction, since a broker
remembers nothing but whether it is connected and how often it was.

Whether an envelope can be written is left open too. One that cannot be written does not get as far
as the server, so only the written ones count when it is said which of them connects.
-/

namespace Outbox

/-- A request to the server and the answer to it. -/
structure StreamExchange where
  request : StreamRequest
  answer : request.Answer

/-- A command and the reply to it. -/
structure StreamCommand where
  /-- The number of the connection that it went over. -/
  connection : Nat
  words : List String
  reply : StreamReply

namespace StreamExchange

/-- How another connection was asked for, if this was done. -/
@[simp] def attempt? : StreamExchange → Option (Except String Unit)
  | ⟨.connect, answer⟩ => some answer
  | ⟨.command _ _, _⟩ => none

/-- The command, if one was sent. -/
@[simp] def command? : StreamExchange → Option StreamCommand
  | ⟨.connect, _⟩ => none
  | ⟨.command connection words, reply⟩ => some ⟨connection, words, reply⟩

end StreamExchange

/-- What is exchanged while a posting is carried out, in order. -/
def Posting.exchanges {World : Type}
    (answer : World → (request : StreamRequest) → request.Answer × World) :
    Posting → World → List StreamExchange
  | .done _ _, _ => []
  | .ask request resume, world =>
    let (reply, world) := answer world request
    ⟨request, reply⟩ :: (resume reply).exchanges answer world

/-- What became of an envelope that a broker was to post. -/
structure Posted where
  envelope : Envelope
  /-- What was written for the envelope, or why nothing was. -/
  written : Except String String
  /-- What was exchanged with the server, in order. -/
  exchanges : List StreamExchange
  result : Except BrokerError Unit

namespace Posted

/-- The connections that were asked for. -/
def attempts (posted : Posted) : List (Except String Unit) :=
  posted.exchanges.filterMap StreamExchange.attempt?

/-- The commands that were sent. -/
def commands (posted : Posted) : List StreamCommand :=
  posted.exchanges.filterMap StreamExchange.command?

/-- The envelope could be written. -/
def isWritten (posted : Posted) : Bool := posted.written.isOk

/-- An envelope with a text is written. -/
@[simp] theorem isWritten_ok (envelope : Envelope) (body : String)
    (exchanges : List StreamExchange) (result : Except BrokerError Unit) :
    isWritten ⟨envelope, .ok body, exchanges, result⟩ = true := rfl

/-- An envelope without a text is not. -/
@[simp] theorem isWritten_error (envelope : Envelope) (reason : String)
    (exchanges : List StreamExchange) (result : Except BrokerError Unit) :
    isWritten ⟨envelope, .error reason, exchanges, result⟩ = false := rfl

/-- The number of the connections that were opened for some envelopes. -/
def opened (all : List Posted) : Nat := (all.flatMap attempts).countP Except.isOk

end Posted

namespace StreamBroker

/-! ## The command and the reply to it -/

section

variable {World : Type} (answer : World → (request : StreamRequest) → request.Answer × World)

/-- What becomes of an envelope. -/
def posted (broker : StreamBroker) (envelope : Envelope) (written : Except String String)
    (world : World) : Posted :=
  let posting := broker.posting envelope written
  ⟨envelope, written, posting.exchanges answer world, (posting.execute answer world).1.1⟩

end

end StreamBroker

namespace Posted

end Posted

namespace StreamBroker

section

variable {World : Type} (answer : World → (request : StreamRequest) → request.Answer × World)
  (write : Envelope → Except String String)

end

/-- An envelope with nothing but a name. -/
def note (name : String) : Envelope := ⟨"product", name, .null, .empty, default⟩

/-- The envelopes of a morning at that server. -/
def morning : List Envelope :=
  [note "", note "a", note "", note "b", note "c", note "d", note "e"]

end StreamBroker

end Outbox
