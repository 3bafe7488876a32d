import Presence.Json.Reader
import Presence.Json.Writer

/-!
# Daily statistics

One record per user and day holds the seconds that the user has spent online on that day.
-/

set_option autoImplicit false

namespace Presence

/-- The time that a user has spent online on a day. -/
structure DailyStatistic where
  user : String
  day : String
  spentSeconds : Int
  point : Int := 0
  deriving Repr, DecidableEq

namespace DailyStatistic

/-- The JSON value of a record. -/
def toJson (s : DailyStatistic) : Json :=
  .object [("userId", .string s.user), ("createdDate", .string s.day),
    ("spentTimeSecond", .int s.spentSeconds), ("point", .int s.point)]

/-- The text of a record. -/
def encode (s : DailyStatistic) : String := s.toJson.text

/-- The names of the members that are read. -/
def isMember (name : String) : Bool :=
  name = "userId" || name = "createdDate" || name = "spentTimeSecond" || name = "point"

/-- The record of its values; the point is zero where there is none. -/
def ofValues? (user day spent : Json) (point : Option Json) : Option DailyStatistic := do
  let point ← match point with
    | some v => v.signed64?
    | none => some 0
  some ⟨← user.string?, ← day.string?, ← spent.signed64?, point⟩

/-- The record of a text. -/
def decode? (text : String) : Option DailyStatistic :=
  match Json.record? isMember text.toList with
  | some ms => do
    let point ← match ms.filter fun m => m.1 = "point" with
      | [] => some none
      | [m] => some (some m.2)
      | _ => none
    ofValues? (← Json.only? "userId" ms) (← Json.only? "createdDate" ms)
      (← Json.only? "spentTimeSecond" ms) point
  -- no object: the values in order, of which the last can be left out
  | none =>
    match Json.read? text.toList with
    | some (.array [user, day, spent]) => ofValues? user day spent none
    | some (.array [user, day, spent, point]) => ofValues? user day spent (some point)
    | _ => none

end DailyStatistic

end Presence
