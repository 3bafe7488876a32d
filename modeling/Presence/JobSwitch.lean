import Presence.Schedule
import Presence.Service
import Presence.Scan

/-!
# Jobs and their switches

A job runs when its schedule allows the hour and its switch, a text in the presence store, does not
say off.
-/

set_option autoImplicit false

namespace Presence

namespace Service

open Operation

/-- The text of a switch that is on or off. A switch that was never set is on. -/
def isOn (text : Option String) : Bool :=
  match text with
  | none => true
  | some t =>
    let t := Text.trim t
    !(t = "0" || Text.lowerAscii t = "false" || Text.lowerAscii t = "off")

/-- Whether a job is switched on. -/
def isActive (s : Service) (job : String) : Operation Bool := do
  pure (isOn (← getString (s.keys.jobSwitch job)))

/-- Switches a job on or off. -/
def setActive (s : Service) (job : String) (active : Bool) : Operation Unit :=
  setString (s.keys.jobSwitch job) (if active then "1" else "0") none

/-- What a tick of a job's timer comes to. -/
inductive Tick where
  | outsideWindow
  | disabled
  /-- The job is to run. -/
  | due
  deriving Repr, DecidableEq

/-- Judges a tick of a job's timer in a zone: the schedule first, then the switch. -/
def tick (s : Service) (job : ScanJob) (schedule : Schedule) (zone : Zone) : Operation Tick := do
  if schedule.allows (← now) zone then
    pure (if ← s.isActive job.name then .due else .disabled)
  else pure .outsideWindow

end Service

end Presence
