import Outbox.Address
import Outbox.Broker.Memory
import Outbox.Text.Quoted

/-!
# Brokers with a stream

A broker can append each envelope to a stream on a server. It connects before the first envelope
and keeps the connection until it is lost; the next envelope then needs another one. Each envelope
is one command, which is never repeated.

The posting of an envelope is a tree of requests to the server. How the server answers them is left
open.
-/

namespace Outbox

/-- Why an address is not that of a stream server. -/
inductive StreamAddressError
  | unreadable
  | noHost
  | noPath
  | encrypted
  | badNumber
  deriving DecidableEq, Repr

/-- The message of an error. -/
def StreamAddressError.message (error : StreamAddressError) : String :=
  let reason := match error with
    | .unreadable => "Redis URL did not parse"
    | .noHost => "Missing hostname"
    | .noPath => "Missing path"
    | .encrypted => "can't connect with TLS, the feature is not enabled"
    | .badNumber => "Invalid database number"
  reason ++ "- InvalidClientConfig"

/-- What a server says to a command. -/
inductive StreamReply
  /-- The identifier of the entry. -/
  | accepted
  /-- An error: a code and, after a space, its explanation. -/
  | refused (line : String)
  | number (amount : Int)
  /-- The connection ends without an answer. -/
  | lost
  deriving DecidableEq, Repr

/-- A broker with a stream. -/
structure StreamBroker where
  /-- The key of the stream. -/
  key : String
  /-- How long the stream may get, about. -/
  maxLength : Option Nat
  isConnected : Bool
  /-- The connections so far, of which the last one is kept. -/
  connections : Nat
  deriving DecidableEq, Repr

/-- What a broker asks of the server. -/
inductive StreamRequest
  /-- Another connection. -/
  | connect
  /-- A command over a connection, which is given by its number. -/
  | command (connection : Nat) (words : List String)
  deriving DecidableEq, Repr

/-- The answers to a request. There is a reason if there is no connection. -/
def StreamRequest.Answer : StreamRequest → Type
  | .connect => Except String Unit
  | .command _ _ => StreamReply

/-- The posting of an envelope: it has ended, or asks something and goes on with the answer. -/
inductive Posting
  | done (result : Except BrokerError Unit) (broker : StreamBroker)
  | ask (request : StreamRequest) (resume : request.Answer → Posting)

/-- Carries a posting out with somebody who answers every request and may change with it. -/
def Posting.execute {World : Type}
    (answer : World → (request : StreamRequest) → request.Answer × World) :
    Posting → World → (Except BrokerError Unit × StreamBroker) × World
  | .done result broker, world => ((result, broker), world)
  | .ask request resume, world =>
    let (reply, world) := answer world request
    (resume reply).execute answer world

namespace StreamBroker

/-- The key of the stream unless another one is set. -/
def defaultKey : String := "supplyreg:outbox"

/-- Checks that an address is that of a stream server: a host, or a socket with a path. -/
def checkAddress (text : String) : Except StreamAddressError Unit := do
  let address ← (Address.parse text).mapError fun _ => .unreadable
  let number ←
    if ["redis", "rediss"].contains address.scheme then
      if (address.host.getD "").isEmpty then throw .noHost
      if address.scheme = "rediss" then throw .encrypted
      let slash (char : Char) : Bool := char = '/'
      let path := (address.path.toList.dropWhile slash).reverse.dropWhile slash
      pure (if path.isEmpty then none else some (String.ofList path.reverse))
    else if ["redis+unix", "unix"].contains address.scheme then
      let isLocal := ["", "localhost"].contains (address.host.getD "")
      if !isLocal || !address.path.startsWith "/" then throw .noPath
      pure (address.setting? "db")
    else throw .unreadable
  if number.any fun text => (Decimal.signed? text).isNone then throw .badNumber

/-- A broker that has not connected yet. -/
def unconnected (key : Option String) (maxLength : Option Nat) : StreamBroker :=
  ⟨key.getD defaultKey, maxLength, false, 0⟩

/-- The broker as it shows itself. -/
def text (broker : StreamBroker) : String :=
  let length := match broker.maxLength with
    | some length => "Some(" ++ toString length ++ ")"
    | none => "None"
  "RedisStreamsBroker \x7b stream_key: " ++ Text.quoted broker.key ++ ", max_len: " ++ length ++
    ", .. \x7d"

/-- The command that appends an envelope to the stream, given what is written for the envelope. -/
def command (broker : StreamBroker) (envelope : Envelope) (body : String) : List String :=
  let limit := match broker.maxLength with
    | some length => ["MAXLEN", "~", toString length]
    | none => []
  ["XADD", broker.key] ++ limit ++ ["*", "routing_key", envelope.routingKey, "event_name",
    envelope.eventName, "event_id", envelope.eventId.text, "envelope", body]

/-- The codes of the errors that have a name of their own. -/
def knownCodes : List (String × String) :=
  [("ERR", "ResponseError"), ("EXECABORT", "ExecAbortError"), ("LOADING", "BusyLoadingError"),
    ("NOSCRIPT", "NoScriptError"), ("MOVED", "Moved"), ("ASK", "Ask"), ("TRYAGAIN", "TryAgain"),
    ("CLUSTERDOWN", "ClusterDown"), ("CROSSSLOT", "CrossSlot"), ("MASTERDOWN", "MasterDown"),
    ("READONLY", "ReadOnly"), ("NOTBUSY", "NotBusy")]

/-- The wording of an error reply. -/
def refusal (line : String) : String :=
  let (code, rest) := line.toList.span (· ≠ ' ')
  let code := String.ofList code
  let detail : Option String := if rest.isEmpty then none else some (String.ofList (rest.drop 1))
  match lookUp? code knownCodes, detail with
  | some name, some detail => "An error was signalled by the server - " ++ name ++ ": " ++ detail
  | some name, none => "An error was signalled by the server- " ++ name
  | none, some detail => code ++ ": " ++ detail
  | none, none => code ++ ": Unknown extension error encountered"

/-- What a reply means for an envelope. -/
def outcome : StreamReply → Except BrokerError Unit
  | .accepted => .ok ()
  | .refused line => .error (.rejected ("XADD failed: " ++ refusal line))
  | .number amount =>
    .error (.rejected ("XADD failed: Response was of incompatible type - TypeError: " ++
      Text.quoted "Response type not string compatible." ++ " (response was int(" ++
      toString amount ++ "))"))
  | .lost => .error (.connection "broken pipe")

/-- Appends an envelope to the stream over the connection that there is. The connection is kept
    unless it is lost. -/
def append (broker : StreamBroker) (envelope : Envelope) (body : String) : Posting :=
  .ask (.command broker.connections (broker.command envelope body)) fun (reply : StreamReply) =>
    .done (outcome reply) { broker with isConnected := reply ≠ .lost }

/-- Posts an envelope, given what is written for it. An envelope that cannot be written is not
    sent. -/
def posting (broker : StreamBroker) (envelope : Envelope) : Except String String → Posting
  | .error reason => .done (.error (.serialization reason)) broker
  | .ok body =>
    if broker.isConnected then broker.append envelope body
    else
      .ask .connect fun
        | .error reason => .done (.error (.connection reason)) broker
        | .ok () =>
          let connected :=
            { broker with isConnected := true, connections := broker.connections + 1 }
          connected.append envelope body

/-- What becomes of an envelope. -/
structure Sent where
  result : Except BrokerError Unit
  /-- The command, if it was sent. -/
  command : Option (List String)
  broker : StreamBroker

/-- Sends an envelope. The server says why there would be no new connection, if there would be
    none, and how it replies. -/
def send (broker : StreamBroker) (unreachable : Option String) (reply : StreamReply)
    (envelope : Envelope) : Sent :=
  let answer (command : Option (List String)) :
      (request : StreamRequest) → request.Answer × Option (List String)
    | .connect => (unreachable.elim (.ok ()) .error, command)
    | .command _ words => (reply, some words)
  let ((result, broker), command) :=
    (broker.posting envelope (.ok envelope.text)).execute answer none
  ⟨result, command, broker⟩

end StreamBroker

end Outbox
