import Presence.Scan
import Presence.Schedule
import Presence.Service

/-!
# Settings

Everything about the program that can be configured, with the values that hold where nothing is
configured.
-/

set_option autoImplicit false

namespace Presence

/-- The settings of the program. -/
structure Settings where
  serviceName : String := "flare-presence"
  redisUrl : Option String := none
  redisNamespace : Option String := none
  mongoUrl : Option String := none
  mongoDatabase : String := "flare_social"
  statisticCollection : String := "daily_statistics"
  userCollection : String := "users"
  queueKey : String := "presence:activity_events"
  consumerId : String := "flare-presence-0"
  workerConcurrency : Nat := 64
  markerTtlSeconds : Nat := 60
  sessionGapSeconds : Int := 60
  defaultAlertRange : Int := 5
  alertThresholdSeconds : Int := 300
  alertScanIntervalSeconds : Nat := 300
  alertLevels : Nat := 3
  sleepStartHour : Nat := 23
  sleepEndHour : Nat := 6
  sleepScanIntervalSeconds : Nat := 3600
  timezone : Zone := .utc
  notificationChannel : String := "presence:notifications"
  deriving Repr, DecidableEq

namespace Settings

/-- How online time is divided into bands. -/
def alertPolicy (s : Settings) : AlertPolicy :=
  .ofThreshold s.alertThresholdSeconds s.alertLevels

/-- When a session ends, and to which day its time belongs. -/
def sessionPolicy (s : Settings) : SessionPolicy :=
  ⟨s.markerTtlSeconds, s.sessionGapSeconds, s.timezone⟩

/-- The service with these settings. -/
def service (s : Settings) : Service :=
  ⟨.ofNamespace s.redisNamespace, s.defaultAlertRange, s.sessionPolicy, s.alertPolicy⟩

/-- When a scan is due. -/
def schedule (s : Settings) : ScanJob → Schedule
  | .alertBand => .interval s.alertScanIntervalSeconds
  | .sleepReminder => .window s.sleepStartHour s.sleepEndHour s.sleepScanIntervalSeconds

/-- The scans in the order in which they are scheduled. -/
def jobs : List ScanJob := [.alertBand, .sleepReminder]

end Settings

end Presence
