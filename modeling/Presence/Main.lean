import Presence.Memory
import Presence.Payload
import Presence.JobSwitch
import Presence.Remote.Relay
import Presence.Remote.Startup

/-!
# Command line

The arguments name the files of the configuration. Commands to the servers are written to standard
output, one a line, and the reply to each is read from standard input; the line `"now"` asks for
the milliseconds of the present. The service runs until standard input ends.
-/

set_option autoImplicit false

namespace Presence.CommandLine

/-- The variables by which the program can be configured. -/
def variableNames : List String :=
  ["FLARE_ENV", "PRESENCE_REDIS_URL", "PRESENCE_REDIS_NAMESPACE", "PRESENCE_MONGO_URL",
   "PRESENCE_MONGO_DATABASE", "PRESENCE_TIMEZONE", "PRESENCE_SERVICE_NAME",
   "PRESENCE_DAILY_STATISTIC_COLLECTION", "PRESENCE_USER_COLLECTION", "PRESENCE_QUEUE_KEY",
   "PRESENCE_CONSUMER_ID", "PRESENCE_WORKER_CONCURRENCY", "PRESENCE_MARKER_TTL_SECONDS",
   "PRESENCE_SESSION_GAP_SECONDS", "PRESENCE_DEFAULT_ALERT_RANGE",
   "PRESENCE_ALERT_THRESHOLD_SECONDS", "PRESENCE_ALERT_SCAN_INTERVAL_SECONDS",
   "PRESENCE_ALERT_LEVELS", "PRESENCE_SLEEP_START_HOUR", "PRESENCE_SLEEP_END_HOUR",
   "PRESENCE_SLEEP_SCAN_INTERVAL_SECONDS", "PRESENCE_NOTIFICATION_CHANNEL"]

/-- The variables of the surroundings. -/
def surroundings : IO Variables := do
  let found ← variableNames.filterMapM fun name => do
    pure ((← IO.getEnv name).map fun value => (name, value))
  pure fun name => found.lookup name

/-- The tree of the files at some paths. -/
def readFiles (paths : List String) : IO FileTree := do
  let files ← paths.mapM fun (path : String) => do
    pure (pathNames path, String.fromUTF8? (← IO.FS.readBinFile path))
  pure { files }

/-- Sends a value to the relay and waits for what it gives back. -/
def exchange (v : Json) : IO Json := do
  let out ← IO.getStdout
  out.putStrLn v.text
  out.flush
  let line ← (← IO.getStdin).getLine
  if line.isEmpty then throw (IO.userError "standard input has ended")
  pure ((Json.read? line.toList).getD .null)

/-- The present. -/
def present : IO Instant := do
  match ((← exchange (.string "now")).signed64?).bind Instant.ofMillis? with
  | some t => pure t
  | none => throw (IO.userError "no present")

/-- Runs a program: the relay answers for the servers and the clock, the memory for the rest. -/
def run {α : Type} : RemoteOperation α → Memory → IO (Outcome α × Memory)
  | .done o, m => pure (o, m)
  | .call (.redis c) next, m => do run (next (.ok (.ofJson (← exchange c.toJson)))) m
  | .call (.mongo c) next, m => do run (next (.ok (.ofJson (← exchange c.toJson)))) m
  | .call .now next, m => do run (next (.ok (← present))) m
  | .call .stamp next, m => do run (next (.ok (← present))) m
  | .call (.count c n) next, m => run (next (.ok ())) { m with metrics := m.metrics.add c n }
  | .call (.enter job) next, m =>
    let (b, g) := (m.guards job).tryEnter
    run (next (.ok b)) (m.withGuard job g)
  | .call (.leave job) next, m => run (next (.ok ())) (m.withGuard job (m.guards job).leave)

/-- What the program does in one round: it handles a payload if there is one, and it runs the
scans that are due. -/
def round (s : Settings) (due : List ScanJob) : Operation Unit := do
  match ← (Operation.next (.ofInt 1)).attempt with
  | .ok (some payload) => let _ ← s.service.handle payload
  | _ => pure ()
  for job in due do
    match ← (s.service.tick job (s.schedule job) s.timezone).attempt with
    | .ok .due => let _ ← (s.service.scan job).attempt
    | _ => pure ()

/-- Runs rounds for ever. Every scan has the milliseconds at which it is due next. -/
partial def serve (s : Settings) (plan : List (ScanJob × Int)) (m : Memory) : IO Unit := do
  let now := (← present).millis
  let due := (plan.filter fun p => p.2 ≤ now).map (·.1)
  let plan := plan.map fun p =>
    if p.2 ≤ now then (p.1, p.2 + 1000 * ((s.schedule p.1).every : Int)) else p
  let (_, m) ← run (Remote.operation s (round s due)) m
  serve s plan m

/-- Reports what keeps the service from running. -/
def report (e : StartupError) : IO UInt32 := do
  IO.eprintln ("Error: " ++ ": ".intercalate e.chain)
  pure 1

/-- Starts the program and runs it. -/
def start (paths : List String) : IO UInt32 := do
  let m : Memory := { clock := ⟨← present, false⟩ }
  match ← run (Remote.launch (← readFiles paths) (← surroundings)) m with
  | (.ok (.ok s), m) => do
    try
      let (_, m) ← run (Remote.operation s Operation.requeue) m
      let now := (← present).millis
      serve s (Settings.jobs.map fun job => (job, now + 1000 * ((s.schedule job).every : Int))) m
    catch _ => pure ()
    pure 0
  | (.ok (.error e), _) => report e
  | _ => pure 1

end Presence.CommandLine

/-- Runs the service with the configuration in the named files. -/
def main (paths : List String) : IO UInt32 := Presence.CommandLine.start paths
