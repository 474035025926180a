import Outbox.Log.Filter
import Outbox.Relay.Basic

/-!
# Starting the relay

The relay reads its settings, puts its parts together and then opens the address for operators. Each
step is logged. A start that fails says in which step and why.
-/

namespace Outbox

open Log

/-- Why an address cannot be opened. -/
inductive BindError
  | invalidAddress
  | invalidPort
  /-- The address is not one of this machine. -/
  | unavailable
  deriving DecidableEq, Repr

/-- The message of an error. -/
def BindError.message : BindError → String
  | .invalidAddress => "invalid socket address"
  | .invalidPort => "invalid port value"
  | .unavailable => "Cannot assign requested address (os error 99)"

/-- The error of opening an address that is not one of this machine. Its last colon stands before
    the number of the port. -/
def bindError (address : String) : BindError :=
  let port := (address.toList.reverse.takeWhile (· != ':')).reverse
  if !address.toList.contains ':' then .invalidAddress
  else if (Decimal.unsigned? (Nat.pow 2 16) (String.ofList port)).isNone then .invalidPort
  else .unavailable

/-- Why a start fails. -/
inductive StartupError
  | config (error : ConfigError)
  | adapters (error : AdapterError)
  | bind (address : String) (error : BindError)
  deriving DecidableEq, Repr

namespace StartupError

/-- What the start was at, and why that failed where this is another thing. -/
def parts : StartupError → String × Option String
  | config error => ("reading relay configuration", some error.message)
  | adapters error => (error.message, none)
  | bind address error => ("failed to bind " ++ address, some error.message)

/-- The lines in which the error is reported. -/
def report (error : StartupError) : List String :=
  match error.parts with
  | (context, none) => ["Error: " ++ context]
  | (context, some cause) => ["Error: " ++ context, "", "Caused by:", "    " ++ cause]

end StartupError

namespace Startup

/-- The format of log lines that settings ask for. Another word than the known ones asks for
    nothing. -/
def logFormat (lookup : Config.Lookup) : Format :=
  (((lookup "SUPPLYREG_LOG_FORMAT").map Format.parse).bind Except.toOption).getD Format.default

/-- The line about the logging itself. -/
def initialized (format : Format) : Line :=
  ⟨.info, "supplyreg_observability::tracing", "tracing initialized",
    [("format", .quoted format.text)]⟩

/-- A warning about the parts of the relay. -/
def warning (message : String) : Line :=
  ⟨.warn, "supplyreg_relay::app::services", message, []⟩

/-- The line about a handler. -/
def handlerLine (handler : Handler) : Line :=
  ⟨.debug, "supplyreg_events::registry", "payload handler registered",
    [("aggregate_type", .bare handler.tag.text)]⟩

/-- The lines about the parts of a relay in memory. -/
def partLines (relay : Relay) : List Line :=
  [warning (if relay.config.brokerUrl.isSome then
      "REDIS_URL set but redis feature not enabled, falling back to in-memory broker"
    else "REDIS_URL not set; envelopes go to the in-memory broker"),
    warning "DATABASE_URL not set; outbox records are kept in memory only",
    ⟨.info, "supplyreg_infra::reference_cache", "reference cache loaded",
      [("entries", .number relay.cache.entries.size)]⟩] ++
  relay.sender.registry.handlers.map handlerLine ++
  [⟨.info, "supplyreg_infra::bootstrap", "payload registry built",
    [("handlers", .number relay.sender.registry.size)]⟩]

/-- The relay that settings ask for, with the lines about its parts. -/
def build (lookup : Config.Lookup) : Except StartupError (Relay × List Line) := do
  let config ← (Config.ofLookup lookup).mapError .config
  let relay ← (Relay.ofConfig config).mapError .adapters
  return (relay, partLines relay)

/-- A start at an address that is not one of this machine: the lines that are logged and the
    error. -/
def run (lookup : Config.Lookup) : List Line × StartupError :=
  let first := initialized (logFormat lookup)
  let (lines, error) := match build lookup with
    | .error error => ([], error)
    | .ok (relay, lines) =>
      (lines, .bind relay.config.bindAddress (bindError relay.config.bindAddress))
  ((first :: lines).filter (passes (filterOf (lookup "RUST_LOG"))), error)

end Startup

end Outbox
