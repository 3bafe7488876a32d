import Presence.Zone

/-!
# Day keys

A day key is a date as a text: the year, the month in two digits and the day in two digits. Keys
of the years 0 to 9999 have eight digits and sort like their dates. Reading is more generous than
writing: blanks may stand before each number, and a year with a sign may be of any length.
-/

set_option autoImplicit false

namespace Presence

namespace Date

/-- The key of a date. -/
def key (d : Date) : String :=
  String.ofList (Instant.yearText d.year ++ Text.padded 2 d.month ++ Text.padded 2 d.day)

/-- At most a number of digits from the front, as a number, and the rest. There is at least one. -/
def leadingNat? (most : Nat) (cs : List Char) : Option (Nat × List Char) :=
  let ds := (cs.take most).takeWhile Char.isDigit
  (Text.digits? ds).map fun n => (n, cs.drop ds.length)

/-- A year from the front: up to four digits, or a sign and any number of digits. -/
def leadingYear? : List Char → Option (Int × List Char)
  | '-' :: cs => (leadingNat? cs.length cs).map fun p => (-(p.1 : Int), p.2)
  | '+' :: cs => (leadingNat? cs.length cs).map fun p => ((p.1 : Int), p.2)
  | cs => (leadingNat? 4 cs).map fun p => ((p.1 : Int), p.2)

/-- The years of the calendar. -/
def isYear (y : Int) : Bool := -262143 ≤ y && y ≤ 262142

/-- The date of a key. -/
def ofKey? (key : String) : Option Date := do
  let (year, rest) ← leadingYear? (key.toList.dropWhile Text.isBlank)
  let (month, rest) ← leadingNat? 2 (rest.dropWhile Text.isBlank)
  let (day, rest) ← leadingNat? 2 (rest.dropWhile Text.isBlank)
  if rest.isEmpty ∧ isYear year then Date.of? year month day else none

end Date

/-- The key of the day that an instant belongs to in a zone. -/
def Zone.dayKey (z : Zone) (t : Instant) : String := (z.dateAt t).key

end Presence
