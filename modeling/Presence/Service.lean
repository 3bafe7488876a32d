import Presence.AlertBand
import Presence.Call
import Presence.Keys
import Presence.Zone

/-!
# The service

The settings by which every operation works: the keys, the alert range of users who chose none,
when a session ends, and how online time is divided into bands.
-/

set_option autoImplicit false

namespace Presence

/-- When a session ends, and to which day its time belongs. -/
structure SessionPolicy where
  /-- The seconds for which an activity keeps a session open. -/
  markerSeconds : Nat
  /-- The seconds between two activities from which on they belong to two sessions. -/
  gapSeconds : Int
  /-- The zone whose days are counted. -/
  zone : Zone
  deriving Repr, DecidableEq

/-- One minute each, in universal time. -/
def SessionPolicy.standard : SessionPolicy := ⟨60, 60, .utc⟩

/-- The settings of the service. -/
structure Service where
  keys : Keys
  defaultRange : Int
  session : SessionPolicy
  alerts : AlertPolicy
  deriving Repr, DecidableEq

end Presence
