import Presence.Configuration.Load
import Presence.Remote
import Presence.Remote.Address
import Presence.Settings.Sources

/-!
# Starting up

Before the service runs, its configuration has to name profiles that exist, its settings have to
make sense, both servers have to have addresses, and the index of the daily statistics has to be
made. The first of these that fails keeps the service from running.
-/

set_option autoImplicit false

namespace Presence

/-- What keeps the service from running. -/
inductive StartupError where
  | references (e : ReferenceError)
  | settings (e : SettingsError)
  | noRedis
  | badRedis
  | noMongo
  | badMongo
  | noIndex
  deriving Repr, DecidableEq

/-- The messages of an error, each the cause of the one before. -/
def StartupError.chain : StartupError → List String
  | .references e => ["configuration validation failed", e.message]
  | .settings e => ["Failed to load presence service configuration", e.message]
  | .noRedis => ["presence service requires a redis url"]
  | .badRedis => ["Failed to create Redis client"]
  | .noMongo => ["presence service requires a mongodb url"]
  | .badMongo => ["Failed to parse MongoDB url"]
  | .noIndex => ["failed to create daily statistic index"]

namespace Remote

/-- The settings with which the servers are reached. -/
def prepare (c : Configuration) (env : Variables) : Except StartupError Settings :=
  match Settings.ofSources c env with
  | .error e => .error (.settings e)
  | .ok s =>
    match s.redisUrl, s.mongoUrl with
    | none, _ => .error .noRedis
    | some redis, mongo =>
      if !isRedisAddress redis then .error .badRedis
      else match mongo with
        | none => .error .noMongo
        | some url => if isMongoAddress url then .ok s else .error .badMongo

/-- Makes the index of the daily statistics: one record for each user and day. -/
def connect (s : Settings) : RemoteOperation (Except StartupError Unit) := do
  match ← RemoteOperation.mongo (.createIndex (statistics s)
    [("userId", .integer 1), ("createdDate", .integer 1)] "uid_user_day") with
  | .refused _ => pure (.error .noIndex)
  | _ => pure (.ok ())

/-- Reaches the servers of a configuration. -/
def reach (c : Configuration) (env : Variables) :
    RemoteOperation (Except StartupError Settings) := do
  match prepare c env with
  | .error e => pure (.error e)
  | .ok s =>
    match ← connect s with
    | .error e => pure (.error e)
    | .ok () => pure (.ok s)

/-- The configuration of the program: that of the folder `config`, whose references have to
hold. -/
def configure (t : FileTree) (env : Variables) : Except StartupError Configuration :=
  let c := (Configuration.load t (Configuration.environment (env "FLARE_ENV")) (some "config")).1
  match c.checkReferences with
  | .error e => .error (.references e)
  | .ok () => .ok c

/-- Starts the program up to the point where the service runs. -/
def launch (t : FileTree) (env : Variables) : RemoteOperation (Except StartupError Settings) :=
  match configure t env with
  | .error e => pure (.error e)
  | .ok c => reach c env

end Remote

end Presence
