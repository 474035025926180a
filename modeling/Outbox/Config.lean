import Outbox.Decimal.Whole
import Outbox.Retry
import Outbox.Text.Quoted

/-!
# Settings

The relay is set up by text settings under fixed keys. A setting that is not given or blank has its
default; any other one has to be acceptable for its key. The settings are looked at in a fixed
order, so that of several unacceptable ones the first is reported.
-/

namespace Outbox

open Calendar

/-- Why settings are refused. -/
inductive ConfigError
  | invalid (key value : String)
  /-- A number of days for which there is no span of time. -/
  | windowTooLong (days : Int)
  deriving DecidableEq, Repr

/-- The message of an error. -/
def ConfigError.message : ConfigError → String
  | .invalid key value => "invalid value for " ++ key ++ ": " ++ Text.quoted value
  | .windowTooLong days => "no window of " ++ toString days ++ " days"

/-- The settings of a relay. -/
structure Config where
  /-- Where records are stored; in memory when there is none. -/
  databaseUrl : Option String
  /-- Where envelopes go; nowhere else than into memory when there is none. -/
  brokerUrl : Option String
  producer : String
  dispatchInterval : Duration
  retentionInterval : Duration
  /-- How many seconds a sent record is kept. -/
  retentionWindow : Nat
  pushTimeout : Duration
  retry : RetryPolicy
  cacheRefreshInterval : Duration
  bindAddress : String
  isLeader : Bool
  deriving DecidableEq

namespace Config

/-- The settings of a relay to which nothing is given. -/
def default : Config where
  databaseUrl := none
  brokerUrl := none
  producer := "supplyreg-registry"
  dispatchInterval := .ofSeconds 15
  retentionInterval := .ofSeconds 86400
  retentionWindow := 30 * secondsPerDay
  pushTimeout := .ofSeconds 10
  retry := .default
  cacheRefreshInterval := .ofSeconds 300
  bindAddress := "0.0.0.0:8080"
  isLeader := true

/-- The settings as the members of a JSON object. -/
def members (config : Config) : List (String × Json) :=
  [("database_url", .ofOption .string config.databaseUrl),
    ("redis_url", .ofOption .string config.brokerUrl),
    ("producer_id", .string config.producer),
    ("dispatch_interval", config.dispatchInterval.json),
    ("retention_interval", config.retentionInterval.json),
    ("retention_window_secs", .count config.retentionWindow),
    ("push_timeout", config.pushTimeout.json),
    ("retry", config.retry.json),
    ("cache_refresh_interval", config.cacheRefreshInterval.json),
    ("bind_addr", .string config.bindAddress),
    ("is_leader", .bool config.isLeader)]

/-- The texts given under the keys. -/
abbrev Lookup := String → Option String

/-- The text given under a key, unless it is blank. -/
def given (lookup : Lookup) (key : String) : Option String :=
  (lookup key).filter fun text => !Text.isBlank text

/-- The value that a text stands for, between white space. -/
def setting {Value : Type} (lookup : Lookup) (key : String) (parse : String → Option Value) :
    Except ConfigError (Option Value) :=
  match given lookup key with
  | none => .ok none
  | some text =>
    match parse (Text.trim text) with
    | some value => .ok (some value)
    | none => .error (.invalid key text)

/-- A number of seconds. -/
def seconds (lookup : Lookup) (key : String) (default : Duration) :
    Except ConfigError Duration := do
  let given ← setting lookup key (Decimal.unsigned? (Nat.pow 2 64))
  return (given.map Duration.ofSeconds).getD default

/-- A number of seconds that is not zero. -/
def positiveSeconds (lookup : Lookup) (key : String) (default : Duration) :
    Except ConfigError Duration := do
  let duration ← seconds lookup key default
  if duration = .zero then throw (.invalid key "0")
  return duration

/-- The truth values by the words for them. -/
def truthWords : List (String × Bool) :=
  [("1", true), ("true", true), ("yes", true), ("on", true),
    ("0", false), ("false", false), ("no", false), ("off", false)]

/-- The truth value of a word in letters of any case. -/
def truth? (text : String) : Option Bool :=
  lookUp? (Text.lowercase text) truthWords

/-- The largest number of days for which there is a span of time. -/
def longestWindow : Int := 106751991167

/-- The number of days that a sent record is kept, in seconds. -/
def retentionWindowOf (lookup : Lookup) : Except ConfigError Nat := do
  let key := "SUPPLYREG_RETENTION_DAYS"
  match ← setting lookup key Decimal.signed? with
  | none => return default.retentionWindow
  | some days =>
    if days ≤ 0 then throw (.invalid key (toString days))
    if longestWindow < days then throw (.windowTooLong days)
    return days.toNat * secondsPerDay

/-- The number of failures after which a record is parked. Zero stands for none. -/
def maxAttemptsOf (lookup : Lookup) : Except ConfigError (Option Nat) := do
  match ← setting lookup "SUPPLYREG_RETRY_MAX_ATTEMPTS" (Decimal.unsigned? (Nat.pow 2 32)) with
  | none => return default.retry.maxAttempts
  | some 0 => return none
  | some attempts => return some attempts

/-- The settings given under the keys. -/
def ofLookup (lookup : Lookup) : Except ConfigError Config := do
  let baseDelay ← seconds lookup "SUPPLYREG_RETRY_BASE_SECS" default.retry.baseDelay
  let maxDelay ← seconds lookup "SUPPLYREG_RETRY_MAX_SECS" default.retry.maxDelay
  let maxAttempts ← maxAttemptsOf lookup
  let retentionWindow ← retentionWindowOf lookup
  let dispatchInterval ←
    positiveSeconds lookup "SUPPLYREG_DISPATCH_INTERVAL_SECS" default.dispatchInterval
  let retentionInterval ←
    positiveSeconds lookup "SUPPLYREG_RETENTION_INTERVAL_SECS" default.retentionInterval
  let pushTimeout ← positiveSeconds lookup "SUPPLYREG_PUSH_TIMEOUT_SECS" default.pushTimeout
  let cacheRefreshInterval ←
    positiveSeconds lookup "SUPPLYREG_CACHE_REFRESH_SECS" default.cacheRefreshInterval
  let isLeader ← setting lookup "SUPPLYREG_IS_LEADER" truth?
  return {
    databaseUrl := given lookup "DATABASE_URL"
    brokerUrl := given lookup "REDIS_URL"
    producer := (given lookup "SUPPLYREG_PRODUCER_ID").getD default.producer
    dispatchInterval, retentionInterval, retentionWindow, pushTimeout
    retry := .exponential maxAttempts baseDelay maxDelay
    cacheRefreshInterval
    bindAddress := (given lookup "SUPPLYREG_BIND_ADDR").getD default.bindAddress
    isLeader := isLeader.getD default.isLeader }

end Config

end Outbox
