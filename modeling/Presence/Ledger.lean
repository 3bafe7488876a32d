import Presence.Call

/-!
# Daily statistics in memory

The records stand in the order of user and day, so that the days of a user follow each other.
-/

set_option autoImplicit false

namespace Presence

/-- What a record is found by. -/
structure UserDay where
  user : String
  day : String
  deriving DecidableEq

namespace UserDay

instance : Ord UserDay := ⟨compareLex (compareOn (·.user)) (compareOn (·.day))⟩

/-- Keys are compared by the user first and then by the day. -/
theorem compare_def (a b : UserDay) :
    compare a b = (compare a.user b.user).then (compare a.day b.day) := rfl

instance : Std.TransOrd UserDay :=
  inferInstanceAs (Std.TransCmp (compareLex (compareOn UserDay.user) (compareOn UserDay.day)))

instance : Std.LawfulEqOrd UserDay where
  compare_self := Std.ReflOrd.compare_self
  eq_of_compare := by
    intro a b h
    rw [compare_def, Ordering.then_eq_eq] at h
    cases a
    cases b
    simp only at h
    rw [Std.LawfulEqOrd.eq_of_compare h.1, Std.LawfulEqOrd.eq_of_compare h.2]

end UserDay

/-- The records of all users and days. -/
structure Ledger where
  records : Table UserDay DailyStatistic := .empty

namespace Ledger

/-- The record of a user and a day. -/
def find (l : Ledger) (user day : String) : Option DailyStatistic := l.records.get? ⟨user, day⟩

/-- Adds seconds to a record, which is made if there is none; a sum beyond the range crashes and
changes nothing. -/
def add (l : Ledger) (user day : String) (seconds : Int) : Outcome Unit × Ledger :=
  let record := (l.find user day).getD ⟨user, day, 0, 0⟩
  match Signed64.add? record.spentSeconds seconds with
  | some sum => (.ok (), ⟨l.records.set ⟨user, day⟩ { record with spentSeconds := sum }⟩)
  | none => (.crashed .addition, l)

/-- The records of a user from a day to another, both inclusive, by day. -/
def range (l : Ledger) (user first last : String) : List DailyStatistic :=
  let within (p : UserDay × DailyStatistic) : Bool :=
    (compare ⟨user, first⟩ p.1).isLE && (compare p.1 ⟨user, last⟩).isLE
  (l.records.entries.filter within).map (·.2)

/-- Answers a call. -/
def serve : (c : LedgerCall) → Ledger → Outcome c.Reply × Ledger
  | .add user day seconds, l => l.add user day seconds
  | .find user day, l => (.ok (l.find user day), l)
  | .range user first last, l => (.ok (l.range user first last), l)

end Ledger

end Presence
