import Presence.Configuration
import Presence.Settings
import Presence.Text.Decimal

/-!
# Where the settings come from

A setting is a variable of the surroundings if there is one, else what the configuration says, else
a fixed value. A variable for a number that is none counts as no variable. The outcome has to make
sense as a whole.

Main statement: `valid_of_ofSources`, settings that were accepted are valid ones.
-/

set_option autoImplicit false

namespace Presence

/-- Settings that make no sense. -/
inductive SettingsError where
  | unknownZone (name : String)
  | noWorkers
  | session
  | defaultRange
  | noLevels
  | sleepHours
  | scanIntervals
  deriving Repr, DecidableEq

/-- The message of an error. -/
def SettingsError.message : SettingsError → String
  | .unknownZone name => "unknown timezone '" ++ name ++ "' in presence config"
  | .noWorkers => "worker_concurrency must be greater than 0"
  | .session => "marker ttl and session gap must be positive"
  | .defaultRange => "default_alert_range must be positive"
  | .noLevels => "alert_levels must be greater than 0"
  | .sleepHours => "sleep window hours must be within 0..=23"
  | .scanIntervals => "scan intervals must be greater than 0"

/-- The variables of the surroundings by name. -/
abbrev Variables := String → Option String

namespace Settings

/-- The first thing about settings that makes no sense. -/
def fault? (s : Settings) : Option SettingsError :=
  if s.workerConcurrency = 0 then some .noWorkers
  else if s.markerTtlSeconds = 0 ∨ s.sessionGapSeconds ≤ 0 then some .session
  else if s.defaultAlertRange ≤ 0 then some .defaultRange
  else if s.alertLevels = 0 then some .noLevels
  else if 23 < s.sleepStartHour ∨ 23 < s.sleepEndHour then some .sleepHours
  else if s.alertScanIntervalSeconds = 0 ∨ s.sleepScanIntervalSeconds = 0 then some .scanIntervals
  else none

/-- Settings that make sense. -/
structure Valid (s : Settings) : Prop where
  workers : 0 < s.workerConcurrency
  marker : 0 < s.markerTtlSeconds
  gap : 0 < s.sessionGapSeconds
  range : 0 < s.defaultAlertRange
  levels : 0 < s.alertLevels
  sleepStart : s.sleepStartHour ≤ 23
  sleepEnd : s.sleepEndHour ≤ 23
  alertInterval : 0 < s.alertScanIntervalSeconds
  sleepInterval : 0 < s.sleepScanIntervalSeconds

/-- No fault is found exactly in settings that are valid. -/
theorem fault?_eq_none {s : Settings} : s.fault? = none ↔ s.Valid := by
  constructor
  · intro h
    unfold fault? at h
    repeat' split at h
    all_goals first
      | contradiction
      | constructor <;> omega
  · intro h
    have := h.workers
    have := h.marker
    have := h.gap
    have := h.range
    have := h.levels
    have := h.sleepStart
    have := h.sleepEnd
    have := h.alertInterval
    have := h.sleepInterval
    unfold fault?
    repeat' split
    all_goals first
      | rfl
      | omega

/-- The number of a variable. Blanks around it are allowed. -/
def number? {α : Type} (read : String → Option α) (env : Variables) (name : String) : Option α :=
  (env name).bind fun v => read (Text.trim v)

/-- An unsigned number of 64 bits. -/
def word64? : String → Option Nat := Text.readNat? Toml.word64

/-- An unsigned number of 32 bits. -/
def word32? : String → Option Nat := Text.readNat? Toml.word32

/-- The zone of the settings. -/
def zone (p : PresenceSection) (env : Variables) : Except SettingsError Zone :=
  match (env "PRESENCE_TIMEZONE").or p.timezone with
  | none => .ok .utc
  | some name =>
    match Zone.read? name with
    | some z => .ok z
    | none => .error (.unknownZone name)

/-- The settings in a zone, sensible or not. -/
def gather (c : Configuration) (env : Variables) (zone : Zone) : Settings :=
  let p := c.presenceSection
  let d : Settings := {}
  { serviceName := ((env "PRESENCE_SERVICE_NAME").or p.serviceName).getD d.serviceName
    redisUrl := (env "PRESENCE_REDIS_URL").or (c.redisProfile.map (·.url))
    redisNamespace := (env "PRESENCE_REDIS_NAMESPACE").or (c.redisProfile.bind (·.space))
    mongoUrl := (env "PRESENCE_MONGO_URL").or (c.mongoProfile.map (·.url))
    mongoDatabase :=
      ((env "PRESENCE_MONGO_DATABASE").or (c.mongoProfile.bind (·.database))).getD d.mongoDatabase
    statisticCollection :=
      ((env "PRESENCE_DAILY_STATISTIC_COLLECTION").or p.statisticCollection).getD
        d.statisticCollection
    userCollection := ((env "PRESENCE_USER_COLLECTION").or p.userCollection).getD d.userCollection
    queueKey := ((env "PRESENCE_QUEUE_KEY").or p.queueKey).getD d.queueKey
    consumerId := (env "PRESENCE_CONSUMER_ID").getD d.consumerId
    workerConcurrency :=
      ((number? word64? env "PRESENCE_WORKER_CONCURRENCY").or p.workerConcurrency).getD
        d.workerConcurrency
    markerTtlSeconds :=
      ((number? word64? env "PRESENCE_MARKER_TTL_SECONDS").or p.markerTtlSeconds).getD
        d.markerTtlSeconds
    sessionGapSeconds :=
      ((number? Text.readSigned64? env "PRESENCE_SESSION_GAP_SECONDS").or p.sessionGapSeconds).getD
        d.sessionGapSeconds
    defaultAlertRange :=
      ((number? Text.readSigned64? env "PRESENCE_DEFAULT_ALERT_RANGE").or p.defaultAlertRange).getD
        d.defaultAlertRange
    alertThresholdSeconds :=
      ((number? Text.readSigned64? env "PRESENCE_ALERT_THRESHOLD_SECONDS").or
        p.alertThresholdSeconds).getD d.alertThresholdSeconds
    alertScanIntervalSeconds :=
      ((number? word64? env "PRESENCE_ALERT_SCAN_INTERVAL_SECONDS").or
        p.alertScanIntervalSeconds).getD d.alertScanIntervalSeconds
    alertLevels :=
      ((number? word32? env "PRESENCE_ALERT_LEVELS").or p.alertLevels).getD d.alertLevels
    sleepStartHour :=
      ((number? word32? env "PRESENCE_SLEEP_START_HOUR").or p.sleepStartHour).getD d.sleepStartHour
    sleepEndHour :=
      ((number? word32? env "PRESENCE_SLEEP_END_HOUR").or p.sleepEndHour).getD d.sleepEndHour
    sleepScanIntervalSeconds :=
      ((number? word64? env "PRESENCE_SLEEP_SCAN_INTERVAL_SECONDS").or
        p.sleepScanIntervalSeconds).getD d.sleepScanIntervalSeconds
    timezone := zone
    notificationChannel :=
      ((env "PRESENCE_NOTIFICATION_CHANNEL").or p.notificationChannel).getD d.notificationChannel }

/-- The settings of a configuration and its surroundings. An unknown zone is found first. -/
def ofSources (c : Configuration) (env : Variables) : Except SettingsError Settings := do
  -- the zone is judged before everything else
  let z ← zone c.presenceSection env
  let s := gather c env z
  match s.fault? with
  | some e => .error e
  | none => .ok s

/-- Settings that were accepted are valid ones. -/
theorem valid_of_ofSources {c : Configuration} {env : Variables} {s : Settings}
    (h : ofSources c env = .ok s) : s.Valid := by
  unfold ofSources at h
  cases hz : zone c.presenceSection env with
  | error e => simp [hz, bind, Except.bind] at h
  | ok z =>
      simp only [hz, bind, Except.bind] at h
      split at h
      · cases h
      · rename_i hf
        cases h
        exact fault?_eq_none.1 hf

end Settings

end Presence
