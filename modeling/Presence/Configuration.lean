import Presence.Logging
import Presence.Toml.Record

/-!
# Configuration

What can be written in the configuration files: the service, the log, the profiles of servers and
the section of the presence service, in which everything is optional. A record is written as a
table whose unknown keys are skipped, or as an array of its values in order.
-/

set_option autoImplicit false

namespace Presence

/-- The service as a whole. -/
structure ServiceInfo where
  name : String := "flare-social"
  version : String := "0.1.0"
  deriving Repr, DecidableEq

/-- A Redis server. -/
structure RedisProfile where
  url : String
  space : Option String := none
  database : Option Nat := none
  deriving Repr, DecidableEq

/-- A MongoDB server. -/
structure MongoProfile where
  url : String
  database : Option String := none
  deriving Repr, DecidableEq

/-- The section of the presence service. -/
structure PresenceSection where
  serviceName : Option String := none
  redis : Option String := none
  mongodb : Option String := none
  statisticCollection : Option String := none
  userCollection : Option String := none
  queueKey : Option String := none
  workerConcurrency : Option Nat := none
  markerTtlSeconds : Option Nat := none
  sessionGapSeconds : Option Int := none
  defaultAlertRange : Option Int := none
  alertThresholdSeconds : Option Int := none
  alertScanIntervalSeconds : Option Nat := none
  alertLevels : Option Nat := none
  sleepStartHour : Option Nat := none
  sleepEndHour : Option Nat := none
  sleepScanIntervalSeconds : Option Nat := none
  timezone : Option String := none
  notificationChannel : Option String := none
  deriving Repr, DecidableEq

/-- The whole configuration. -/
structure Configuration where
  service : ServiceInfo := {}
  logging : Logging := {}
  redis : List (String × RedisProfile) := []
  mongodb : List (String × MongoProfile) := []
  presence : Option PresenceSection := none
  deriving Repr, DecidableEq

/-- A profile that the presence section names and that there is none of. -/
inductive ReferenceError where
  | redis (name : String)
  | mongodb (name : String)
  deriving Repr, DecidableEq

/-- The message of an error. -/
def ReferenceError.message : ReferenceError → String
  | .redis name => "services.presence references unknown redis profile '" ++ name ++ "'"
  | .mongodb name => "services.presence references unknown mongodb profile '" ++ name ++ "'"

namespace Configuration

/-- The section of the presence service, an empty one where there is none. -/
def presenceSection (c : Configuration) : PresenceSection := c.presence.getD {}

/-- The Redis profile that the presence section names. -/
def redisProfile (c : Configuration) : Option RedisProfile :=
  c.presenceSection.redis.bind fun name => c.redis.lookup name

/-- The MongoDB profile that the presence section names. -/
def mongoProfile (c : Configuration) : Option MongoProfile :=
  c.presenceSection.mongodb.bind fun name => c.mongodb.lookup name

/-- Whether the profiles that the presence section names exist; the first that does not. -/
def checkReferences (c : Configuration) : Except ReferenceError Unit :=
  match c.presenceSection.redis, c.redisProfile, c.presenceSection.mongodb, c.mongoProfile with
  | some name, none, _, _ => .error (.redis name)
  | _, _, some name, none => .error (.mongodb name)
  | _, _, _, _ => .ok ()

end Configuration

open Toml

/-- The service of a value; its name is needed. -/
def ServiceInfo.ofToml? (v : Toml) : Option ServiceInfo := do
  let f ← fields? ["name", "version"] v
  some {
    name := ← (f "name").bind text?
    version := ← orElse? text? ({} : ServiceInfo).version (f "version") }

/-- The log settings of a value. -/
def Logging.ofToml? (v : Toml) : Option Logging := do
  let f ← fields? ["level", "with_target", "with_thread_ids", "with_file", "with_line_number"] v
  let d : Logging := {}
  some {
    level := ← orElse? text? d.level (f "level")
    withTarget := ← orElse? bool? d.withTarget (f "with_target")
    withThreadIds := ← orElse? bool? d.withThreadIds (f "with_thread_ids")
    withFile := ← orElse? bool? d.withFile (f "with_file")
    withLineNumber := ← orElse? bool? d.withLineNumber (f "with_line_number") }

/-- The Redis server of a value; its address is needed. -/
def RedisProfile.ofToml? (v : Toml) : Option RedisProfile := do
  let f ← fields? ["url", "namespace", "database"] v
  some {
    url := ← (f "url").bind text?
    space := ← maybe? text? (f "namespace")
    database := ← maybe? (nat? word32) (f "database") }

/-- The MongoDB server of a value; its address is needed. -/
def MongoProfile.ofToml? (v : Toml) : Option MongoProfile := do
  let f ← fields? ["url", "database"] v
  some {
    url := ← (f "url").bind text?
    database := ← maybe? text? (f "database") }

/-- The names of the fields of the presence section. -/
def PresenceSection.names : List String :=
  ["service_name", "redis", "mongodb", "daily_statistic_collection", "user_collection",
   "queue_key", "worker_concurrency", "marker_ttl_seconds", "session_gap_seconds",
   "default_alert_range", "alert_threshold_seconds", "alert_scan_interval_seconds",
   "alert_levels", "sleep_start_hour", "sleep_end_hour", "sleep_scan_interval_seconds",
   "timezone", "notification_channel"]

/-- The presence section of a value. -/
def PresenceSection.ofToml? (v : Toml) : Option PresenceSection := do
  let f ← fields? names v
  some {
    serviceName := ← maybe? text? (f "service_name")
    redis := ← maybe? text? (f "redis")
    mongodb := ← maybe? text? (f "mongodb")
    statisticCollection := ← maybe? text? (f "daily_statistic_collection")
    userCollection := ← maybe? text? (f "user_collection")
    queueKey := ← maybe? text? (f "queue_key")
    workerConcurrency := ← maybe? (nat? word64) (f "worker_concurrency")
    markerTtlSeconds := ← maybe? (nat? word64) (f "marker_ttl_seconds")
    sessionGapSeconds := ← maybe? int? (f "session_gap_seconds")
    defaultAlertRange := ← maybe? int? (f "default_alert_range")
    alertThresholdSeconds := ← maybe? int? (f "alert_threshold_seconds")
    alertScanIntervalSeconds := ← maybe? (nat? word64) (f "alert_scan_interval_seconds")
    alertLevels := ← maybe? (nat? word32) (f "alert_levels")
    sleepStartHour := ← maybe? (nat? word32) (f "sleep_start_hour")
    sleepEndHour := ← maybe? (nat? word32) (f "sleep_end_hour")
    sleepScanIntervalSeconds := ← maybe? (nat? word64) (f "sleep_scan_interval_seconds")
    timezone := ← maybe? text? (f "timezone")
    notificationChannel := ← maybe? text? (f "notification_channel") }

/-- The configuration of a value. -/
def Configuration.ofToml? (v : Toml) : Option Configuration := do
  let f ← fields? ["service", "logging", "redis", "mongodb", "services"] v
  let services ← maybe? (fields? ["presence"]) (f "services")
  some {
    service := ← orElse? ServiceInfo.ofToml? {} (f "service")
    logging := ← orElse? Logging.ofToml? {} (f "logging")
    redis := ← orElse? (profiles? RedisProfile.ofToml?) [] (f "redis")
    mongodb := ← orElse? (profiles? MongoProfile.ofToml?) [] (f "mongodb")
    presence := ← maybe? PresenceSection.ofToml? (services.bind fun s => s "presence") }

end Presence
