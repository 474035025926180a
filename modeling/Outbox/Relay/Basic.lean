import Outbox.Config
import Outbox.Dispatch.Site
import Outbox.Handlers
import Outbox.Reference
import Outbox.Schedule

/-!
# The relay

The relay puts a store, a broker, the handlers and the reference data together as its settings say.
It refuses settings under which records of a database would count as sent although their envelopes
went no further than its own memory. Its three loops dispatch records, delete expired ones and
refresh the reference data.
-/

namespace Outbox

open Calendar

/-- Why a relay is not put together. -/
inductive AdapterError
  /-- A database is set, but no broker. -/
  | noBroker
  /-- A database and a broker are set, but the program has no client for the broker. -/
  | noBrokerClient
  deriving DecidableEq, Repr

/-- The message of an error. -/
def AdapterError.message : AdapterError → String
  | .noBroker =>
    "DATABASE_URL is set without REDIS_URL; refusing to mark postgres outbox records " ++
      "sent through the in-memory broker"
  | .noBrokerClient => "REDIS_URL is set but this build lacks the " ++ Text.backticked "redis" ++
      " feature; refusing to mark postgres outbox records sent through the in-memory broker"

/-- A relay in memory. -/
structure Relay where
  config : Config
  site : Site
  sender : Sender
  cache : ReferenceCache
  isLeader : Bool

namespace Relay

/-- The relay that settings ask for. -/
def ofConfig (config : Config) : Except AdapterError Relay :=
  match config.databaseUrl, config.brokerUrl with
  | some _, some _ => .error .noBrokerClient
  | some _, none => .error .noBroker
  | none, _ => .ok {
      config
      site := .empty
      sender := ⟨.complete, config.producer⟩
      cache := ⟨.empty⟩
      isLeader := config.isLeader }

/-- How the relay sends. -/
def sending (relay : Relay) : Sending :=
  ⟨relay.sender, relay.cache.find?, relay.config.pushTimeout⟩

/-- A dispatch run of the relay. -/
def dispatch (relay : Relay) (now : Timestamp) : TickOutcome × Relay :=
  let (outcome, site) := relay.site.dispatch relay.sending relay.config.retry relay.isLeader now
  (outcome, { relay with site })

/-- A retention run of the relay. -/
def retain (relay : Relay) (now : Timestamp) : RetentionOutcome × Relay :=
  let (outcome, site) := relay.site.retain relay.isLeader relay.config.retentionWindow now
  (outcome, { relay with site })

/-- A refresh of the reference data, which without a database are empty. -/
def refresh (relay : Relay) : Relay :=
  { relay with cache := (relay.cache.refresh (.ok .empty)).2 }

/-! ## Loops -/

/-- The names of the loops. -/
def loopNames : List String :=
  ["outbox-dispatch", "outbox-retention", ReferenceCache.jobName]

/-- Carries out a number of runs at one moment. A run that crashes ends its loop. -/
def repeatRun (run : Relay → Bool × Relay) : Nat → Relay → Relay
  | 0, relay => relay
  | more + 1, relay =>
    match run relay with
    | (true, relay) => relay
    | (false, relay) => repeatRun run more relay

/-- Whether a dispatch run crashed. -/
def dispatchCrashes (relay : Relay) (now : Timestamp) : Bool × Relay :=
  match relay.dispatch now with
  | (.crashed, relay) => (true, relay)
  | (_, relay) => (false, relay)

/-- Whether a retention run crashed. -/
def retentionCrashes (relay : Relay) (now : Timestamp) : Bool × Relay :=
  match relay.retain now with
  | (.crashed, relay) => (true, relay)
  | (_, relay) => (false, relay)

/-- The number of runs that a loop begins within some milliseconds. A run that is due just at their
end still begins. -/
def runsWithin (period : Duration) (millis : Nat) : Nat :=
  (Schedule.runsFrom period.millis (fun _ => 0) millis (fun _ => true) (millis + 1) 0 0 0).1.length

/-- The relay after its loops have been running for some milliseconds around a moment. -/
def runLoops (relay : Relay) (millis : Nat) (now : Timestamp) : Relay :=
  let dispatched := repeatRun (fun relay => relay.dispatchCrashes now)
    (runsWithin relay.config.dispatchInterval millis) relay
  let retained := repeatRun (fun relay => relay.retentionCrashes now)
    (runsWithin relay.config.retentionInterval millis) dispatched
  repeatRun (fun relay => (false, relay.refresh))
    (runsWithin relay.config.cacheRefreshInterval millis) retained

end Relay

end Outbox
