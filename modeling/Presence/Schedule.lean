import Presence.Zone

/-!
# Schedules

A job is due at fixed intervals, at every hour or in a window of hours of its zone.
-/

set_option autoImplicit false

namespace Presence

/-- When a job is due. -/
inductive Schedule where
  | interval (every : Nat)
  /-- From the first hour, inclusive, to the last one, exclusive. -/
  | window (first last : Nat) (every : Nat)
  deriving Repr, DecidableEq

namespace Schedule

/-- The seconds between two times at which the job is due. -/
def every : Schedule → Nat
  | .interval n => n
  | .window _ _ n => n

/-- An hour lies in a window. A window whose last hour is before its first one wraps past
midnight; one whose hours are equal is the whole day. -/
def hourInWindow (hour first last : Nat) : Bool :=
  if first = last then true
  else if first < last then first ≤ hour && hour < last
  else first ≤ hour || hour < last

/-- The job may run at an instant. -/
def allows (s : Schedule) (t : Instant) (z : Zone) : Bool :=
  match s with
  | .interval _ => true
  | .window first last _ => hourInWindow (z.hourAt t) first last

end Schedule

end Presence
