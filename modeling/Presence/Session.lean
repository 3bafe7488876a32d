import Presence.AlertRange
import Presence.DayKey

/-!
# Sessions

Nobody says goodbye: a session ends when its marker, the instant of the last activity, has expired
or is too old. Every activity renews the marker and accrues the time since the one before. The
activity or the heartbeat that finds the session ended writes the accrued time to the statistics
of the day and sets it back to zero.
-/

set_option autoImplicit false

namespace Presence

/-- What an event did to the session of its user. -/
inductive Accrual where
  /-- There was no marker: a session starts. -/
  | started (flushed : Int)
  /-- The marker was too old: a session starts. -/
  | restarted (gap flushed : Int)
  /-- The session goes on, longer by the gap. -/
  | accrued (gap : Int)
  /-- A heartbeat has found the session ended. -/
  | expired (flushed : Int)
  | unchanged
  deriving Repr, DecidableEq

namespace Service

open Operation

/-- The instant that a marker names: milliseconds since 1970 with blanks around them. -/
def marker? (text : String) : Option Instant :=
  (Text.readSigned64? (Text.trim text)).bind Instant.ofMillis?

/-- Adds seconds to the statistics of a user and a day. -/
def flush (user : String) (seconds : Int) (day : String) : Operation Unit := do
  addSpent user day seconds
  count .sessionsFlushed 1
  count .flushedSeconds seconds.toNat

/-- Ends a session: the accrued time is set to zero and, if there is any, added to the day. Tells
the seconds that were added. -/
def closeSession (s : Service) (user set : String) (accrued : Int) (time : Instant) :
    Operation Int := do
  setScore set user 0
  if accrued ≤ 0 then pure 0
  else
    flush user accrued (s.session.zone.dayKey time)
    pure accrued

/-- A heartbeat ends a session whose marker has expired, and changes nothing else. -/
def onHeartbeat (s : Service) (user : String) : Operation Accrual := do
  let set := s.keys.accrualSet (← s.resolve user)
  match ← getString (s.keys.sessionMarker user) with
  | some _ => pure .unchanged
  | none =>
    let accrued ← getScore set user
    if accrued ≤ 0 then pure .unchanged
    else
      let time ← now
      let _ ← s.closeSession user set accrued time
      pure (.expired accrued)

/-- What an activity does after the marker was renewed. -/
def judge (s : Service) (user set : String) (accrued : Int) (time : Instant)
    (lastSeen : Option Instant) : Operation Accrual := do
  match lastSeen with
  | none => pure (.started (← s.closeSession user set accrued time))
  | some last =>
    -- events out of order have a negative gap, which accrues nothing
    let gap := time.secondsSince last
    if s.session.gapSeconds ≤ gap then
      pure (.restarted gap (← s.closeSession user set accrued time))
    else if 0 < gap then
      let _ ← incrScore set user gap
      pure (.accrued gap)
    else pure (.accrued 0)

/-- An activity renews the marker; then the session goes on, or it ends and another one starts. -/
def onActivity (s : Service) (user : String) : Operation Accrual := do
  let time ← now
  let set := s.keys.accrualSet (← s.resolve user)
  let accrued ← getScore set user
  let marker ← getString (s.keys.sessionMarker user)
  setString (s.keys.sessionMarker user) (toString time.millis) (some s.session.markerSeconds)
  s.judge user set accrued time (marker.bind marker?)

end Service

end Presence
