import Presence.Instant

/-!
# A clock that is set by hand

The clock stands still until it is set or advanced. An advance beyond the calendar jams it: from
then on it shows the time at which it stood and takes no orders.
-/

set_option autoImplicit false

namespace Presence

/-- A clock that is set by hand. -/
structure Clock where
  now : Instant
  jammed : Bool := false
  deriving DecidableEq

namespace Clock

/-- Noon of 18 October 2026 in universal time. -/
def noon : Instant := ⟨1792324800000, by decide⟩

/-- Sets the clock. -/
def set (c : Clock) (t : Instant) : Clock := if c.jammed then c else { c with now := t }

/-- Advances the clock by a number of seconds, which may be negative. -/
def advance (c : Clock) (seconds : Int) : Outcome Unit × Clock :=
  if c.jammed then (.ok (), c)
  else
    match c.now.after seconds with
    | .ok t => (.ok (), { c with now := t })
    | .failed e => (.failed e, { c with jammed := true })
    | .crashed b => (.crashed b, { c with jammed := true })

end Clock

end Presence
