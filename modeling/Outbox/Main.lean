import Outbox.Relay.Startup
import Std.Time.Format

/-!
# The relay program

The program takes its settings from the environment, logs its start to the standard output and
reports an error to the standard error output. It opens no sockets of its own, so that every start
ends with an error and with exit code 1.
-/

namespace Outbox.Program

/-- The moment at which the program is running. -/
def now : IO Calendar.Timestamp := do
  let nanos := (← Std.Time.Timestamp.now).toNanosecondsSinceUnixEpoch.val
  let second : Int := Calendar.nanosPerSecond
  return (Calendar.Timestamp.ofParts? (nanos / second) (nanos % second).toNat).getD default

/-- A log line with its time. -/
def lineText (format : Log.Format) (moment : Calendar.Timestamp) (line : Log.Line) : String :=
  match format, line.json with
  | .json, .object members =>
    (Json.ofMembers (("timestamp", moment.json) :: members)).text
  | _, _ => moment.text ++ " " ++ line.plain

/-- The keys that the program reads. -/
def keys : List String :=
  ["DATABASE_URL", "REDIS_URL", "RUST_LOG", "SUPPLYREG_BIND_ADDR", "SUPPLYREG_CACHE_REFRESH_SECS",
    "SUPPLYREG_DISPATCH_INTERVAL_SECS", "SUPPLYREG_IS_LEADER", "SUPPLYREG_LOG_FORMAT",
    "SUPPLYREG_PRODUCER_ID", "SUPPLYREG_PUSH_TIMEOUT_SECS", "SUPPLYREG_RETENTION_DAYS",
    "SUPPLYREG_RETENTION_INTERVAL_SECS", "SUPPLYREG_RETRY_BASE_SECS",
    "SUPPLYREG_RETRY_MAX_ATTEMPTS", "SUPPLYREG_RETRY_MAX_SECS"]

/-- The settings in the environment. -/
def environment : IO (Dictionary String) :=
  keys.foldlM
    (fun settings key => do
      match ← IO.getEnv key with
      | some text => return settings.insert key text
      | none => return settings)
    .empty

end Outbox.Program

/-- Starts the relay. -/
def main : IO UInt32 := do
  let settings ← Outbox.Program.environment
  let (lines, error) := Outbox.Startup.run settings.find?
  let format := Outbox.Startup.logFormat settings.find?
  for line in lines do
    IO.println (Outbox.Program.lineText format (← Outbox.Program.now) line)
  for text in error.report do
    IO.eprintln text
  return 1
