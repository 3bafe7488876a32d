import Presence.Calendar
import Presence.Outcome
import Presence.Text.Decimal

/-!
# Instants

An instant is a whole number of milliseconds since 1970 in universal time, inside the calendar
from the year -262143 to the year 262142. Spans are added in whole seconds; a span or a sum that
leaves its range crashes.
-/

set_option autoImplicit false

namespace Presence

/-- A moment of universal time. -/
structure Instant where
  millis : Int
  inRange : -8334601228800000 ≤ millis ∧ millis ≤ 8210266876799999

namespace Instant

/-- Instants of the same millisecond are equal. -/
theorem ext {a b : Instant} (h : a.millis = b.millis) : a = b := by
  cases a
  cases b
  simp only at h
  subst h
  rfl

instance : DecidableEq Instant := fun a b =>
  if h : a.millis = b.millis then isTrue (ext h) else isFalse fun e => h (by rw [e])

instance : LE Instant := ⟨fun a b => a.millis ≤ b.millis⟩

instance (a b : Instant) : Decidable (a ≤ b) := inferInstanceAs (Decidable (a.millis ≤ b.millis))

/-- The beginning of 1970. -/
def epoch : Instant := ⟨0, by decide⟩

/-- The instant of a number of milliseconds, if the calendar holds it. -/
def ofMillis? (n : Int) : Option Instant :=
  if h : -8334601228800000 ≤ n ∧ n ≤ 8210266876799999 then some ⟨n, h⟩ else none

theorem ofMillis?_millis (t : Instant) : ofMillis? t.millis = some t := by
  simp only [ofMillis?, t.inRange, and_self, dif_pos]

/-- The milliseconds that are found are those of the instant. -/
theorem ofMillis?_eq_some {n : Int} {t : Instant} : ofMillis? n = some t ↔ t.millis = n := by
  constructor
  · intro h
    unfold ofMillis? at h
    split at h
    · cases h
      rfl
    · cases h
  · rintro rfl
    exact ofMillis?_millis t

/-- The number of whole seconds since 1970, rounded down. -/
def seconds (t : Instant) : Int := t.millis / 1000

/-- The greatest number of seconds that a span can have. -/
def longestSpan : Int := 9223372036854775

/-- The instant a number of seconds later. -/
def after (t : Instant) (s : Int) : Outcome Instant :=
  if s.natAbs ≤ longestSpan.natAbs then
    Outcome.ofOption .instant (ofMillis? (t.millis + 1000 * s))
  else .crashed .span

/-- The whole seconds from an earlier instant to a later one, rounded toward zero. -/
def secondsSince (later earlier : Instant) : Int := (later.millis - earlier.millis).tdiv 1000

/-- A year of four digits, or a sign and at least four digits outside `0` to `9999`. -/
def yearText (year : Int) : List Char :=
  if 0 ≤ year ∧ year ≤ 9999 then Text.padded 4 year.toNat
  else (if year < 0 then '-' else '+') :: Text.padded 4 year.natAbs

/-- The date and the time of day with milliseconds, in universal time. -/
def text (t : Instant) : String :=
  let day := t.millis / 86400000
  let rest := (t.millis % 86400000).toNat
  let d := Date.ofDayNumber day
  String.ofList <|
    yearText d.year ++ '-' :: Text.padded 2 d.month ++ '-' :: Text.padded 2 d.day ++
      'T' :: Text.padded 2 (rest / 3600000) ++ ':' :: Text.padded 2 (rest / 60000 % 60) ++
      ':' :: Text.padded 2 (rest / 1000 % 60) ++ '.' :: Text.padded 3 (rest % 1000) ++ ['Z']

end Instant

end Presence
