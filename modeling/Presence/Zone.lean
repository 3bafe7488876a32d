import Presence.Instant
import Presence.Text.Blank
import Presence.Zone.Africa
import Presence.Zone.Alias
import Presence.Zone.America
import Presence.Zone.Asia
import Presence.Zone.Etc
import Presence.Zone.Europe
import Presence.Zone.Ocean

/-!
# Time zones

A zone is a first offset from universal time and a list of changes. `named?` finds the zone of a
name; a second name gives the history under that name. The local date and hour of an instant come
from the offset that holds then.
-/

set_option autoImplicit false

namespace Presence

/-- A time zone: the offset in seconds before all changes, then each change as the second since
1970 at which it comes into force and the offset from then on, in ascending order. -/
structure Zone where
  name : String
  first : Int
  changes : List (Int × Int)
  deriving Repr, DecidableEq

namespace Zone

/-- The zone without an offset. -/
def utc : Zone := ⟨"UTC", 0, []⟩

/-- The offset at an instant, in seconds. -/
def offsetAt (z : Zone) (t : Instant) : Int :=
  z.changes.foldl (fun o c => if c.1 ≤ t.seconds then c.2 else o) z.first

/-- The seconds since 1970 that a clock of the zone shows. -/
def localSeconds (z : Zone) (t : Instant) : Int := t.seconds + z.offsetAt t

/-- The date in the zone. -/
def dateAt (z : Zone) (t : Instant) : Date := Date.ofDayNumber (z.localSeconds t / 86400)

/-- The hour of the day in the zone, from 0 to 23. -/
def hourAt (z : Zone) (t : Instant) : Nat := (z.localSeconds t % 86400 / 3600).toNat

/-- A moment of every year: a month, which of its weeks (the fifth is the last), a day of the week
from Sunday, and the seconds after the midnight that begins this day. -/
structure YearlyMoment where
  month : Nat
  week : Nat
  weekday : Nat
  time : Int

/-- The seconds from 1970 to the moment in a year, by a clock that shows universal time. -/
def YearlyMoment.inYear (m : YearlyMoment) (year : Int) : Int :=
  match Date.of? year m.month 1 with
  | none => 0
  | some d =>
    let first := d.dayNumber
    -- 1 January 1970 was a Thursday
    let day := ((m.weekday : Int) - (first + 4)) % 7 + 7 * ((m.week : Int) - 1)
    -- a fifth week that the month does not have is the last one
    let day := if (daysInMonth year m.month : Int) ≤ day then day - 7 else day
    (first + day) * 86400 + m.time

/-- The changes that a yearly rule makes from a year up to 2099. The first moment is shown by a
clock with the first offset and brings the second offset into force, and the other way round. -/
def yearlyChanges (year : Int) (standard summer : Int) (begins ends : YearlyMoment) :
    List (Int × Int) :=
  (List.range (2100 - year).toNat).flatMap fun (i : Nat) =>
    let y := year + i
    -- each moment is shown by the clock that it ends
    let b := (begins.inYear y - standard, summer)
    let e := (ends.inYear y - summer, standard)
    if b.1 ≤ e.1 then [b, e] else [e, b]

/-- Reads a yearly moment such as `10.5.0.3600`. -/
def YearlyMoment.ofText? (s : String) : Option YearlyMoment :=
  match (s.splitOn ".").map String.toInt? with
  | [some month, some week, some weekday, some time] =>
    some ⟨month.toNat, week.toNat, weekday.toNat, time⟩
  | _ => none

/-- Reads a change such as `354909600:25200`. -/
def change? (s : String) : Option (Int × Int) :=
  match (s.splitOn ":").map String.toInt? with
  | [some moment, some offset] => some (moment, offset)
  | _ => none

/-- Reads the changes of a yearly rule, such as `1996 3600 7200 3.5.0.7200 10.5.0.10800`. -/
def rule? (s : String) : Option (List (Int × Int)) :=
  match s.splitOn " " with
  | [year, standard, summer, begins, ends] => do
    some <| yearlyChanges (← year.toInt?) (← standard.toInt?) (← summer.toInt?)
      (← YearlyMoment.ofText? begins) (← YearlyMoment.ofText? ends)
  | _ => none

/-- Reads the history of a zone: the first offset, the changes, and a yearly rule if there is
one. -/
def ofHistory? (name history : String) : Option Zone :=
  let (past, rule) := match history.splitOn "; " with
    | [past, rule] => (past, rule? rule)
    | _ => (history, some [])
  match past.splitOn " " with
  | [] => none
  | first :: changes => do
    some ⟨name, ← first.toInt?, (← changes.mapM change?) ++ (← rule)⟩

/-- The tables of histories. -/
def histories : List (List (String × String)) :=
  [africaHistories, americaHistories, asiaHistories, etcHistories, europeHistories,
    oceanHistories]

/-- The history under a name that is no second name. -/
def history? (name : String) : Option String := histories.findSome? fun t => t.lookup name

/-- The zone of a name, spelled exactly. -/
def named? (name : String) : Option Zone :=
  (history? ((aliases.lookup name).getD name)).bind (ofHistory? name)

/-- The zone of a name with blanks around it. -/
def read? (text : String) : Option Zone := named? (Text.trim text)

end Zone

end Presence
