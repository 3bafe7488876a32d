import Presence.AlertRange

/-!
# Queries

The time of the open session, the record of a day, and the time between two days.
-/

set_option autoImplicit false

namespace Presence.Service

open Operation

/-- The accrued seconds of the open session of a user. -/
def liveAccrual (s : Service) (user : String) : Operation Int := do
  getScore (s.keys.accrualSet (← s.resolve user)) user

/-- The record of a user and a day. -/
def dailyStatistic (user day : String) : Operation (Option DailyStatistic) := findStatistic user day

/-- The sum of seconds in the given order, which crashes where it leaves the range. -/
def sumSeconds (total : Int) : List DailyStatistic → Outcome Int
  | [] => .ok total
  | r :: rest =>
    (Outcome.ofOption .addition (Signed64.add? total r.spentSeconds)).andThen fun t =>
      sumSeconds t rest

/-- The seconds on the days from a first to a last one, both inclusive. -/
def spentBetween (user first last : String) : Operation Int := do
  .done (sumSeconds 0 (← statisticsBetween user first last))

end Presence.Service
