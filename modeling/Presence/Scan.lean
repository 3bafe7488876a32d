import Presence.AlertRange

/-!
# Scans

A scan goes through the accrued time of all users. The alert scan tells everyone whose time lies in
a band; the reminder scan tells everyone who is still online. A scan that finds itself running is
skipped, and its mark is taken away however it ends.
-/

set_option autoImplicit false

namespace Presence

/-- What became of a scan. -/
inductive ScanReport where
  | skipped
  /-- The number of notifications that were sent. -/
  | completed (notified : Nat)
  deriving Repr, DecidableEq

namespace ScanJob

/-- The name of a scan in the metrics. -/
def label : ScanJob → String
  | .alertBand => "alert_band"
  | .sleepReminder => "sleep_reminder"

/-- The name of a scan as a job. -/
def name : ScanJob → String
  | .alertBand => "alert_band_scan"
  | .sleepReminder => "sleep_reminder_scan"

end ScanJob

namespace Service

open Operation

/-- The sum of what an operation counts for every item of a list. -/
def sumOver {α : Type} (f : α → Operation Nat) : List α → Operation Nat
  | [] => pure 0
  | x :: rest => do
    let n ← f x
    let m ← sumOver f rest
    pure (n + m)

/-- Sends a notification and counts it; one that cannot be sent is left out. -/
def notifyCounted (n : Notification) (c : Counter) : Operation Nat := do
  match ← (notify n).attempt with
  | .ok _ =>
    count c 1
    pure 1
  | .error _ => pure 0

/-- Runs a scan unless it is running. -/
def guarded (job : ScanJob) (scan : Operation Nat) : Operation ScanReport := do
  if ← enter job then
    -- the mark is taken away after a crash too
    let notified ← scan.ensuring (leave job)
    pure (.completed notified)
  else
    count (.scansSkipped job.label) 1
    pure .skipped

/-- The alert for a user in a band. -/
def alertFor (s : Service) (user : String) (band : AlertBand) : Notification :=
  (Notification.ofTemplate user (.onlineTimeAlert band.level))
    |>.withParam "alertMinutes" (.int s.alerts.minutes)
    |>.withParam "level" (.int band.level)
    |>.withParam "elapsedMinutes" (.int band.elapsedMinutes)

/-- Alerts the users of a bucket whose accrued time lies in a band. -/
def alertBucket (s : Service) (band : AlertBand) (bucket : Int) : Operation Nat := do
  let users ← rangeByScore (s.keys.accrualSet bucket) band.low (some band.high)
  sumOver (fun u => notifyCounted (s.alertFor u band) (.alertsSent (toString band.level))) users

/-- Alerts every user whose accrued time lies in a band. -/
def alertAll (s : Service) : Operation Nat := do
  let buckets ← s.knownBuckets
  let bands ← .done s.alerts.bands
  sumOver (fun band => sumOver (s.alertBucket band) buckets) bands

/-- The reminder for a user with accrued time. -/
def reminderFor (user : String) (accrued : Int) : Notification :=
  (Notification.ofTemplate user .sleepReminder).withParam "onlineMinutes" (.int (accrued.tdiv 60))

/-- Reminds a user whose marker has not expired. -/
def remindUser (s : Service) (set user : String) : Operation Nat := do
  match ← getString (s.keys.sessionMarker user) with
  | none => pure 0
  | some _ =>
    let accrued ← getScore set user
    notifyCounted (reminderFor user accrued) .sleepReminders

/-- Reminds the users of a bucket who are online and have accrued time. -/
def remindBucket (s : Service) (bucket : Int) : Operation Nat := do
  let set := s.keys.accrualSet bucket
  sumOver (s.remindUser set) (← rangeByScore set 1 none)

/-- Reminds every user who is online and has accrued time. -/
def remindAll (s : Service) : Operation Nat := do
  sumOver s.remindBucket (← s.knownBuckets)

/-- One run of a scan. -/
def scan (s : Service) : ScanJob → Operation ScanReport
  | .alertBand => guarded .alertBand s.alertAll
  | .sleepReminder => guarded .sleepReminder s.remindAll

end Service

end Presence
