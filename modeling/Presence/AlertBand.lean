import Presence.Binary64
import Presence.Outcome

/-!
# Bands of online time

A level covers the time from its number of alert periods up to, and without, the next. Bounds are
kept in seconds.
-/

set_option autoImplicit false

namespace Presence

/-- A level with the seconds that it covers: from `low`, inclusive, to `high`, exclusive. -/
structure AlertBand where
  level : Nat
  low : Int
  high : Int
  deriving Repr, DecidableEq

namespace AlertBand

/-- A product that crashes where it leaves the range. -/
def times (a b : Int) : Outcome Int := .ofOption .multiplication (Signed64.mul? a b)

/-- The band of a level, where the length of an alert period is given in minutes. -/
def ofLevel (level : Nat) (minutes : Int) : Outcome AlertBand :=
  (times minutes 60).andThen fun step =>
  (times level step).andThen fun low =>
  (times (level + 1) step).andThen fun high => .ok ⟨level, low, high⟩

/-- The bands of the levels from a first one on. -/
def ofLevels (minutes : Int) : Nat → Nat → Outcome (List AlertBand)
  | _, 0 => .ok []
  | first, n + 1 =>
    (ofLevel first minutes).andThen fun b =>
    (ofLevels minutes (first + 1) n).andThen fun bs => .ok (b :: bs)

/-- The bands of the levels from one to a number. -/
def all (levels : Nat) (minutes : Int) : Outcome (List AlertBand) := ofLevels minutes 1 levels

/-- The band covers a number of seconds. -/
def contains (b : AlertBand) (seconds : Int) : Bool := b.low ≤ seconds && seconds < b.high

/-- The whole minutes at which the band begins. -/
def elapsedMinutes (b : AlertBand) : Int := b.low.tdiv 60

end AlertBand

/-- How online time is divided into bands. -/
structure AlertPolicy where
  /-- The length of an alert period. -/
  minutes : Int
  /-- The number of levels, from one. -/
  levels : Nat
  deriving Repr, DecidableEq

namespace AlertPolicy

/-- The policy of a threshold in seconds, rounded to minutes and at least one. The division is one
of binary floating point. -/
def ofThreshold (seconds : Int) (levels : Nat) : AlertPolicy :=
  ⟨max 1 (((Binary64.ofInt seconds).divNat 60).round), levels⟩

/-- Five minutes and three levels. -/
def standard : AlertPolicy := ⟨5, 3⟩

/-- The bands of the policy. -/
def bands (p : AlertPolicy) : Outcome (List AlertBand) := AlertBand.all p.levels p.minutes

/-- The minutes of a policy are never less than one. -/
theorem one_le_minutes (seconds : Int) (levels : Nat) :
    1 ≤ (ofThreshold seconds levels).minutes := by
  simp only [ofThreshold]
  omega

end AlertPolicy

end Presence
