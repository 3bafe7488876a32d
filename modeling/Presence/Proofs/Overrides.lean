import Mathlib.Algebra.Group.Int.Defs
import Mathlib.Data.List.Nodup
import Mathlib.Logic.Function.Basic
import Presence.Settings.Sources

/-!
# Settings from variables, from the configuration and by default

Every setting is found in three places: in the variable that bears its name, in the configuration,
and among the standard settings. Main statement: `Settings.ofSources_found_in_three_places`, in
accepted settings each one has the value of its variable if this can be read, else the value of the
configuration, else the standard one; so a variable decides about one setting alone, and a number
that cannot be read is as good as none.
-/

set_option autoImplicit false

namespace Presence

namespace Text

/-- Characters spell a number: at least one digit, and a sign before them, which may be left out. A
minus sign is for signed numbers. -/
inductive Spells (signed : Bool) : List Char → Int → Prop
  | plain (ds : List Char) (hne : ds ≠ []) (hdigits : ∀ c ∈ ds, c.isDigit = true) :
      Spells signed ds (Nat.ofDigitChars 10 ds 0 : Nat)
  | plus (ds : List Char) (hne : ds ≠ []) (hdigits : ∀ c ∈ ds, c.isDigit = true) :
      Spells signed ('+' :: ds) (Nat.ofDigitChars 10 ds 0 : Nat)
  | minus (ds : List Char) (hne : ds ≠ []) (hdigits : ∀ c ∈ ds, c.isDigit = true)
      (hsigned : signed = true) : Spells signed ('-' :: ds) (-(Nat.ofDigitChars 10 ds 0 : Nat))

theorem digits?_eq_some {cs : List Char} {n : Nat} :
    digits? cs = some n ↔
      (cs ≠ [] ∧ ∀ c ∈ cs, c.isDigit = true) ∧ Nat.ofDigitChars 10 cs 0 = n := by
  unfold digits?
  split
  · rename_i h
    rw [List.all_eq_true] at h
    rw [Option.some.injEq, and_iff_right h]
  · rename_i h
    rw [List.all_eq_true] at h
    exact iff_of_false (fun e => nomatch e) fun e => h e.1

theorem signed?_eq_some {cs : List Char} {n : Int} : signed? cs = some n ↔ Spells true cs n := by
  constructor
  · intro h
    unfold signed? at h
    split at h
    all_goals
      simp only [Option.map_eq_some_iff, Option.bind_eq_bind, Option.bind_eq_some_iff,
        Option.pure_def, Option.some.injEq] at h
      obtain ⟨_, ⟨m, hm, rfl⟩, rfl⟩ := h
      obtain ⟨⟨hne, hdigits⟩, rfl⟩ := digits?_eq_some.1 hm
    · exact .minus _ hne hdigits rfl
    · exact .plus _ hne hdigits
    · exact .plain _ hne hdigits
  · rintro (⟨ds, hne, hdigits⟩ | ⟨ds, hne, hdigits⟩ | ⟨ds, hne, hdigits, -⟩)
    · unfold signed?
      have hread := digits?_eq_some.2 ⟨⟨hne, hdigits⟩, rfl⟩
      split
      · exact absurd (hdigits '-' List.mem_cons_self) (by decide)
      · exact absurd (hdigits '+' List.mem_cons_self) (by decide)
      · rw [hread]
        rfl
    · rw [signed?, digits?_eq_some.2 ⟨⟨hne, hdigits⟩, rfl⟩]
      rfl
    · rw [signed?, digits?_eq_some.2 ⟨⟨hne, hdigits⟩, rfl⟩]
      rfl

theorem unsigned?_eq_some {cs : List Char} {n : Int} :
    (∃ m : Nat, unsigned? cs = some m ∧ (m : Int) = n) ↔ Spells false cs n := by
  constructor
  · rintro ⟨m, h, rfl⟩
    unfold unsigned? at h
    split at h
    all_goals obtain ⟨⟨hne, hdigits⟩, rfl⟩ := digits?_eq_some.1 h
    · exact .plus _ hne hdigits
    · exact .plain _ hne hdigits
  · rintro (⟨ds, hne, hdigits⟩ | ⟨ds, hne, hdigits⟩ | ⟨ds, -, -, hsigned⟩)
    · refine ⟨_, ?_, rfl⟩
      unfold unsigned?
      split
      · exact absurd (hdigits '+' List.mem_cons_self) (by decide)
      · exact digits?_eq_some.2 ⟨⟨hne, hdigits⟩, rfl⟩
    · exact ⟨_, digits?_eq_some.2 ⟨⟨hne, hdigits⟩, rfl⟩, rfl⟩
    · cases hsigned

/-- An unsigned number is read exactly if it is spelled and not too great. -/
theorem readNat?_eq_some {high : Nat} {s : String} {n : Int} :
    (∃ m : Nat, readNat? high s = some m ∧ (m : Int) = n) ↔
      Spells false s.toList n ∧ n ≤ high := by
  rw [← unsigned?_eq_some]
  simp only [readNat?, Option.filter_eq_some_iff, decide_eq_true_eq]
  constructor
  · rintro ⟨m, ⟨hm, hle⟩, rfl⟩
    exact ⟨⟨m, hm, rfl⟩, Int.ofNat_le.2 hle⟩
  · rintro ⟨⟨m, hm, rfl⟩, hle⟩
    exact ⟨m, ⟨hm, Int.ofNat_le.1 hle⟩, rfl⟩

/-- A signed number is read exactly if it is spelled and between the bounds. -/
theorem readInt?_eq_some {low high : Int} {s : String} {n : Int} :
    readInt? low high s = some n ↔ Spells true s.toList n ∧ low ≤ n ∧ n ≤ high := by
  simp only [readInt?, Option.filter_eq_some_iff, signed?_eq_some, Bool.and_eq_true,
    decide_eq_true_eq]

end Text

/-- An integer of a machine. -/
structure Word where
  signed : Bool
  bits : Nat
  deriving Repr, DecidableEq

/-- A word has a number between its bounds that is spelled by a text. -/
def Word.Reads (w : Word) (s : String) (n : Int) : Prop :=
  Text.Spells w.signed s.toList n ∧
    if w.signed then -2 ^ (w.bits - 1) ≤ n ∧ n < 2 ^ (w.bits - 1) else n < 2 ^ w.bits

/-- A setting of the program. -/
inductive Setting where
  | serviceName
  | redisUrl
  | redisNamespace
  | mongoUrl
  | mongoDatabase
  | statisticCollection
  | userCollection
  | queueKey
  | consumerId
  | workerConcurrency
  | markerTtlSeconds
  | sessionGapSeconds
  | defaultAlertRange
  | alertThresholdSeconds
  | alertScanIntervalSeconds
  | alertLevels
  | sleepStartHour
  | sleepEndHour
  | sleepScanIntervalSeconds
  | timezone
  | notificationChannel
  deriving Repr, DecidableEq

namespace Setting

/-- All settings. -/
def all : List Setting :=
  [.serviceName, .redisUrl, .redisNamespace, .mongoUrl, .mongoDatabase, .statisticCollection,
    .userCollection, .queueKey, .consumerId, .workerConcurrency, .markerTtlSeconds,
    .sessionGapSeconds, .defaultAlertRange, .alertThresholdSeconds, .alertScanIntervalSeconds,
    .alertLevels, .sleepStartHour, .sleepEndHour, .sleepScanIntervalSeconds, .timezone,
    .notificationChannel]

/-- The name of a setting, as it is written in files. -/
def key : Setting → String
  | .serviceName => "service_name"
  | .redisUrl => "redis_url"
  | .redisNamespace => "redis_namespace"
  | .mongoUrl => "mongo_url"
  | .mongoDatabase => "mongo_database"
  | .statisticCollection => "daily_statistic_collection"
  | .userCollection => "user_collection"
  | .queueKey => "queue_key"
  | .consumerId => "consumer_id"
  | .workerConcurrency => "worker_concurrency"
  | .markerTtlSeconds => "marker_ttl_seconds"
  | .sessionGapSeconds => "session_gap_seconds"
  | .defaultAlertRange => "default_alert_range"
  | .alertThresholdSeconds => "alert_threshold_seconds"
  | .alertScanIntervalSeconds => "alert_scan_interval_seconds"
  | .alertLevels => "alert_levels"
  | .sleepStartHour => "sleep_start_hour"
  | .sleepEndHour => "sleep_end_hour"
  | .sleepScanIntervalSeconds => "sleep_scan_interval_seconds"
  | .timezone => "timezone"
  | .notificationChannel => "notification_channel"

/-- The variable of a setting: its name in capitals after the name of the service. -/
def variableName (f : Setting) : String :=
  "PRESENCE_" ++ String.ofList (f.key.toList.map Char.toUpper)

/-- The type of the values of a setting. -/
@[reducible]
def Value : Setting → Type
  | .redisUrl | .redisNamespace | .mongoUrl => Option String
  | .workerConcurrency | .markerTtlSeconds | .alertScanIntervalSeconds | .alertLevels
  | .sleepStartHour | .sleepEndHour | .sleepScanIntervalSeconds => Nat
  | .sessionGapSeconds | .defaultAlertRange | .alertThresholdSeconds => Int
  | .timezone => Zone
  | _ => String

/-- The value of a setting. -/
def get (s : Settings) : (f : Setting) → f.Value
  | .serviceName => s.serviceName
  | .redisUrl => s.redisUrl
  | .redisNamespace => s.redisNamespace
  | .mongoUrl => s.mongoUrl
  | .mongoDatabase => s.mongoDatabase
  | .statisticCollection => s.statisticCollection
  | .userCollection => s.userCollection
  | .queueKey => s.queueKey
  | .consumerId => s.consumerId
  | .workerConcurrency => s.workerConcurrency
  | .markerTtlSeconds => s.markerTtlSeconds
  | .sessionGapSeconds => s.sessionGapSeconds
  | .defaultAlertRange => s.defaultAlertRange
  | .alertThresholdSeconds => s.alertThresholdSeconds
  | .alertScanIntervalSeconds => s.alertScanIntervalSeconds
  | .alertLevels => s.alertLevels
  | .sleepStartHour => s.sleepStartHour
  | .sleepEndHour => s.sleepEndHour
  | .sleepScanIntervalSeconds => s.sleepScanIntervalSeconds
  | .timezone => s.timezone
  | .notificationChannel => s.notificationChannel

/-- The machine word of a setting that is a number. -/
def word? : Setting → Option Word
  | .workerConcurrency | .markerTtlSeconds | .alertScanIntervalSeconds
  | .sleepScanIntervalSeconds => some ⟨false, 64⟩
  | .alertLevels | .sleepStartHour | .sleepEndHour => some ⟨false, 32⟩
  | .sessionGapSeconds | .defaultAlertRange | .alertThresholdSeconds => some ⟨true, 64⟩
  | _ => none

/-- The number that a value is. -/
def toInt : (f : Setting) → f.Value → Int
  | .workerConcurrency, n | .markerTtlSeconds, n | .alertScanIntervalSeconds, n | .alertLevels, n
  | .sleepStartHour, n | .sleepEndHour, n | .sleepScanIntervalSeconds, n => (n : Nat)
  | .sessionGapSeconds, n | .defaultAlertRange, n | .alertThresholdSeconds, n => n
  | _, _ => 0

/-- The value of the text of a variable. Blanks around a number are allowed. -/
def read? : (f : Setting) → String → Option f.Value
  | .serviceName, s | .mongoDatabase, s | .statisticCollection, s | .userCollection, s
  | .queueKey, s | .consumerId, s | .notificationChannel, s => some s
  | .redisUrl, s | .redisNamespace, s | .mongoUrl, s => some (some s)
  | .workerConcurrency, s | .markerTtlSeconds, s | .alertScanIntervalSeconds, s
  | .sleepScanIntervalSeconds, s => Settings.word64? (Text.trim s)
  | .alertLevels, s | .sleepStartHour, s | .sleepEndHour, s => Settings.word32? (Text.trim s)
  | .sessionGapSeconds, s | .defaultAlertRange, s | .alertThresholdSeconds, s =>
    Text.readSigned64? (Text.trim s)
  | .timezone, s => Zone.read? s

/-- The value of the variable of a setting, if there is one and it can be read. -/
def override? (env : Variables) (f : Setting) : Option f.Value := (env f.variableName).bind f.read?

/-- What the section of the service says, if there is one. -/
def said? {α : Type} (c : Configuration) (field : PresenceSection → Option α) : Option α :=
  c.presence.bind field

/-- The profile that the section of the service names: the entry under this name among the profiles
of the configuration. -/
def named? {α : Type} (c : Configuration) (field : PresenceSection → Option String)
    (profiles : List (String × α)) : Option α :=
  (said? c field).bind fun name => profiles.lookup name

/-- The value of a setting in the section of the service, or in the profile of the server that the
section names. -/
def configured? (c : Configuration) : (f : Setting) → Option f.Value
  | .serviceName => said? c (·.serviceName)
  | .redisUrl => (named? c (·.redis) c.redis).map fun p => some p.url
  | .redisNamespace => (named? c (·.redis) c.redis).bind fun p => p.space.map some
  | .mongoUrl => (named? c (·.mongodb) c.mongodb).map fun p => some p.url
  | .mongoDatabase => (named? c (·.mongodb) c.mongodb).bind fun p => p.database
  | .statisticCollection => said? c (·.statisticCollection)
  | .userCollection => said? c (·.userCollection)
  | .queueKey => said? c (·.queueKey)
  | .consumerId => none
  | .workerConcurrency => said? c (·.workerConcurrency)
  | .markerTtlSeconds => said? c (·.markerTtlSeconds)
  | .sessionGapSeconds => said? c (·.sessionGapSeconds)
  | .defaultAlertRange => said? c (·.defaultAlertRange)
  | .alertThresholdSeconds => said? c (·.alertThresholdSeconds)
  | .alertScanIntervalSeconds => said? c (·.alertScanIntervalSeconds)
  | .alertLevels => said? c (·.alertLevels)
  | .sleepStartHour => said? c (·.sleepStartHour)
  | .sleepEndHour => said? c (·.sleepEndHour)
  | .sleepScanIntervalSeconds => said? c (·.sleepScanIntervalSeconds)
  | .timezone => (said? c (·.timezone)).bind Zone.read?
  | .notificationChannel => said? c (·.notificationChannel)

/-- A missing section says as little as an empty one. -/
theorem said?_eq {α : Type} (c : Configuration) {field : PresenceSection → Option α}
    (h : field {} = none) : said? c field = field c.presenceSection := by
  unfold said? Configuration.presenceSection
  cases c.presence with
  | none => exact h.symm
  | some p => rfl

theorem named?_redis (c : Configuration) : named? c (·.redis) c.redis = c.redisProfile := by
  rw [named?, said?_eq c rfl]
  rfl

theorem named?_mongodb (c : Configuration) : named? c (·.mongodb) c.mongodb = c.mongoProfile := by
  rw [named?, said?_eq c rfl]
  rfl

/-- The value of a setting: of its variable, else of the configuration, else the standard one. -/
def value (c : Configuration) (env : Variables) (f : Setting) : f.Value :=
  ((f.override? env).or (f.configured? c)).getD (f.get {})

theorem mem_all (f : Setting) : f ∈ all := by cases f <;> decide

/-- Two settings have two variables. -/
theorem variableName_inj {f g : Setting} (h : f.variableName = g.variableName) : f = g := by
  have hnodup : (all.map variableName).Nodup := by decide
  exact List.inj_on_of_nodup_map hnodup f.mem_all g.mem_all h

end Setting

namespace Settings

open Setting

/-- Settings are told apart by the values of single ones. -/
theorem ext_get {s s' : Settings} (h : ∀ f : Setting, f.get s = f.get s') : s = s' := by
  cases s
  cases s'
  simp only [Settings.mk.injEq]
  exact ⟨h .serviceName, h .redisUrl, h .redisNamespace, h .mongoUrl, h .mongoDatabase,
    h .statisticCollection, h .userCollection, h .queueKey, h .consumerId, h .workerConcurrency,
    h .markerTtlSeconds, h .sessionGapSeconds, h .defaultAlertRange, h .alertThresholdSeconds,
    h .alertScanIntervalSeconds, h .alertLevels, h .sleepStartHour, h .sleepEndHour,
    h .sleepScanIntervalSeconds, h .timezone, h .notificationChannel⟩

variable {c : Configuration} {env env' : Variables} {s s' : Settings} {z : Zone} {f : Setting}

theorem ofSources_eq_ok_iff : ofSources c env = .ok s ↔
    ∃ z, zone c.presenceSection env = .ok z ∧ s = gather c env z ∧ s.Valid := by
  unfold ofSources
  cases zone c.presenceSection env with
  | error e => simp [bind, Except.bind]
  | ok z =>
      simp only [bind, Except.bind]
      cases hfault : (gather c env z).fault? with
      | some e =>
          refine iff_of_false (fun h => nomatch h) ?_
          rintro ⟨z', hz, rfl, hvalid⟩
          cases hz
          rw [fault?_eq_none.2 hvalid] at hfault
          cases hfault
      | none =>
          constructor
          · intro h
            cases h
            exact ⟨z, rfl, rfl, fault?_eq_none.1 hfault⟩
          · rintro ⟨z', hz, rfl, -⟩
            cases hz
            rfl

/-- Apart from the zone every gathered setting is found in its three places. -/
theorem get_gather (hf : f ≠ .timezone) : f.get (gather c env z) = f.value c env := by
  have hoptional (x y : Option String) :
      x.or y = ((x.bind fun s => some (some s)).or (y.map some)).getD none := by
    cases x <;> cases y <;> rfl
  have hread (x y : Option String) (standard : String) :
      (x.or y).getD standard = ((x.bind some).or y).getD standard := by
    rw [Option.bind_fun_some]
  cases f <;> simp only [Setting.value, Setting.configured?]
  case timezone => exact absurd rfl hf
  case consumerId =>
      show (env _).getD _ = (((env _).bind some).or none).getD _
      rw [Option.bind_fun_some, Option.or_none]
      rfl
  case redisUrl =>
      rw [named?_redis]
      exact (hoptional _ _).trans (by rw [Option.map_map]; rfl)
  case redisNamespace =>
      rw [named?_redis]
      exact (hoptional _ _).trans (by rw [Option.map_bind]; rfl)
  case mongoUrl =>
      rw [named?_mongodb]
      exact (hoptional _ _).trans (by rw [Option.map_map]; rfl)
  case mongoDatabase =>
      rw [named?_mongodb]
      exact hread _ _ _
  case serviceName | statisticCollection | userCollection | queueKey | notificationChannel =>
      rw [said?_eq c rfl]
      exact hread _ _ _
  all_goals
      rw [said?_eq c rfl]
      rfl

/-- A zone that is accepted is found in its three places too. -/
theorem zone_eq_ok (h : zone c.presenceSection env = .ok z) :
    z = Setting.timezone.value c env := by
  show z = (((env "PRESENCE_TIMEZONE").bind Zone.read?).or
    ((said? c (·.timezone)).bind Zone.read?)).getD .utc
  rw [said?_eq c rfl]
  unfold zone at h
  cases henv : env "PRESENCE_TIMEZONE" with
  | none =>
      rw [henv, Option.none_or] at h
      cases hsection : c.presenceSection.timezone with
      | none =>
          rw [hsection] at h
          exact (Except.ok.inj h).symm
      | some name =>
          rw [hsection] at h
          dsimp only at h
          cases hread : Zone.read? name with
          | none => simp [hread] at h
          | some z' =>
              simp only [hread, Except.ok.injEq] at h
              simp [hread, h]
  | some name =>
      rw [henv, Option.some_or] at h
      dsimp only at h
      cases hread : Zone.read? name with
      | none => simp [hread] at h
      | some z' =>
          simp only [hread, Except.ok.injEq] at h
          simp [hread, h]

/-- Every accepted setting is found in its three places. -/
theorem get_of_ofSources (h : ofSources c env = .ok s) (f : Setting) :
    f.get s = f.value c env := by
  obtain ⟨z, hz, rfl, -⟩ := ofSources_eq_ok_iff.1 h
  by_cases hf : f = .timezone
  · rw [hf]
    exact zone_eq_ok hz
  · exact get_gather hf

/-- What comes of the sources depends on a variable only as far as it can be read. -/
theorem ofSources_congr (hzone : env Setting.timezone.variableName =
      env' Setting.timezone.variableName)
    (h : ∀ f : Setting, f.override? env = f.override? env') :
    ofSources c env = ofSources c env' := by
  have hz : zone c.presenceSection env = zone c.presenceSection env' := by
    have hname : Setting.timezone.variableName = "PRESENCE_TIMEZONE" := rfl
    rw [hname] at hzone
    rw [zone, zone, hzone]
  have hgather (z : Zone) : gather c env z = gather c env' z := by
    refine ext_get fun f => ?_
    by_cases hf : f = .timezone
    · rw [hf]
      rfl
    · rw [get_gather hf, get_gather hf, Setting.value, Setting.value, h]
  unfold ofSources
  rw [hz]
  simp only [hgather]

/-- The number of a variable is read exactly if a word of its setting reads it without the blanks
around it. -/
theorem read?_eq_some {w : Word} (hw : f.word? = some w) (t : String) (n : Int) :
    (∃ v, f.read? t = some v ∧ f.toInt v = n) ↔ w.Reads (Text.trim t) n := by
  cases f with
  | workerConcurrency | markerTtlSeconds | alertScanIntervalSeconds | sleepScanIntervalSeconds
  | alertLevels | sleepStartHour | sleepEndHour =>
      cases hw
      refine Text.readNat?_eq_some.trans (and_congr_right fun _ => ?_)
      simp only [Toml.word64, Toml.word32, Bool.false_eq_true, if_false]
      omega
  | sessionGapSeconds | defaultAlertRange | alertThresholdSeconds =>
      cases hw
      show (∃ v, Text.readInt? _ _ _ = some v ∧ v = n) ↔ _
      rw [exists_eq_right, Text.readInt?_eq_some]
      refine and_congr_right fun _ => ?_
      simp only [Signed64.least, Signed64.greatest, if_true]
      omega
  | _ => cases hw

/-- A number that cannot be read is as good as no variable. -/
theorem ofSources_unset {w : Word} (hw : f.word? = some w)
    (h : ∀ t, env f.variableName = some t → ∀ n, ¬ w.Reads (Text.trim t) n) :
    ofSources c env = ofSources c (Function.update env f.variableName none) := by
  have hnone : f.override? env = none := by
    unfold Setting.override?
    rw [Option.bind_eq_none_iff]
    intro t ht
    rw [Option.eq_none_iff_forall_ne_some]
    exact fun v hv => h t ht _ ((read?_eq_some hw t _).1 ⟨v, hv, rfl⟩)
  refine ofSources_congr ?_ fun g => ?_
  · rw [Function.update_of_ne]
    intro hname
    rw [← Setting.variableName_inj hname] at hw
    cases hw
  · by_cases hg : g = f
    · rw [hg, hnone, Setting.override?, Function.update_self]
      rfl
    · unfold Setting.override?
      rw [Function.update_of_ne fun hname => hg (Setting.variableName_inj hname)]

/-- How settings are found. -/
structure FoundInThreePlaces : Prop where
  /-- Accepted settings make sense. -/
  sensible : ∀ (c : Configuration) (env : Variables) (s : Settings), ofSources c env = .ok s →
    s.Valid
  /-- Each of them is that of its variable, if this can be read, else that of the section or of the
  profile that the section names, else the standard one. -/
  found : ∀ (c : Configuration) (env : Variables) (s : Settings), ofSources c env = .ok s →
    ∀ f : Setting, f.get s = ((f.override? env).or (f.configured? c)).getD (f.get {})
  /-- Two surroundings that differ in one variable lead to the same settings, but for the one that
  the variable belongs to. -/
  independent : ∀ (c : Configuration) (env env' : Variables) (name : String) (s s' : Settings),
    (∀ n, n ≠ name → env n = env' n) → ofSources c env = .ok s → ofSources c env' = .ok s' →
      ∀ f : Setting, f.variableName ≠ name → f.get s = f.get s'
  /-- A variable belongs to one setting at most. -/
  single : ∀ f g : Setting, f.variableName = g.variableName → f = g
  /-- There is nothing more to settings than these. -/
  exhaustive : ∀ s s' : Settings, (∀ f : Setting, f.get s = f.get s') → s = s'
  /-- A number is read exactly if it is spelled in digits, with blanks around it at most, and fits
  into the word of its setting. -/
  numbers : ∀ (f : Setting) (w : Word), f.word? = some w → ∀ (t : String) (n : Int),
    (∃ v, f.read? t = some v ∧ f.toInt v = n) ↔ w.Reads (Text.trim t) n
  /-- A number that cannot be read is as good as no variable, whatever comes of the sources. -/
  unreadable : ∀ (c : Configuration) (env : Variables) (f : Setting) (w : Word) (t : String),
    f.word? = some w → env f.variableName = some t → (∀ n, ¬ w.Reads (Text.trim t) n) →
      ofSources c env = ofSources c (Function.update env f.variableName none)

/-- A section with five levels that names a profile of either kind of server. -/
def fiveLevels : Configuration :=
  { redis := [("cache", { url := "redis://cache:6379" })]
    mongodb := [("archive", { url := "mongodb://archive:27017" }),
      ("primary", { url := "mongodb://primary:27017", database := some "social" })]
    presence := some { redis := some "cache", mongodb := some "primary", alertLevels := some 5 } }

/-- A number of levels that is one too great for its word, and a number of workers. -/
def oversizedLevels : Variables
  | "PRESENCE_ALERT_LEVELS" => some " 4294967296 "
  | "PRESENCE_WORKER_CONCURRENCY" => some " +8\n"
  | _ => none

end Settings

end Presence
