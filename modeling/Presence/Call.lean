import Presence.Activity
import Presence.Instant
import Presence.Metrics
import Presence.Notification
import Presence.Program
import Presence.Statistic

/-!
# What the service asks of its surroundings

The service reads and writes a presence store, keeps daily statistics, looks up profiles, sends
notifications, takes payloads from a queue, reads a clock, counts, and holds the marks of running
scans. Each of these is a call with a typed reply; an `Operation` is a program over them.
-/

set_option autoImplicit false

namespace Presence

/-- Calls on the presence store: texts that can expire, and sets of members with scores. -/
inductive StoreCall where
  | getString (key : String)
  /-- Writes a text, which lasts for a number of seconds or for ever. -/
  | setString (key value : String) (ttl : Option Nat)
  /-- The score of a member, zero where it has none. -/
  | getScore (set member : String)
  | setScore (set member : String) (value : Int)
  /-- Adds to a score and tells the sum. -/
  | incrScore (set member : String) (delta : Int)
  /-- The members whose score is at least `low` and below `high`, by score and then by name. -/
  | rangeByScore (set : String) (low : Int) (high : Option Int)
  | removeMember (set member : String)
  deriving Repr, DecidableEq

/-- The type of the reply to a call on the presence store. -/
@[reducible]
def StoreCall.Reply : StoreCall → Type
  | .getString _ => Option String
  | .setString _ _ _ => Unit
  | .getScore _ _ => Int
  | .setScore _ _ _ => Unit
  | .incrScore _ _ _ => Int
  | .rangeByScore _ _ _ => List String
  | .removeMember _ _ => Unit

/-- Calls on the daily statistics. -/
inductive LedgerCall where
  /-- Adds seconds to the record of a user and a day, which is made if there is none. -/
  | add (user day : String) (seconds : Int)
  | find (user day : String)
  /-- The records of a user from a day to another, both inclusive, by day. -/
  | range (user first last : String)
  deriving Repr, DecidableEq

/-- The type of the reply to a call on the daily statistics. -/
@[reducible]
def LedgerCall.Reply : LedgerCall → Type
  | .add _ _ _ => Unit
  | .find _ _ => Option DailyStatistic
  | .range _ _ _ => List DailyStatistic

/-- Calls on the queue of activity events. -/
inductive QueueCall where
  | enqueue (event : ActivityEvent)
  /-- Takes the next payload, waiting for a number of seconds. -/
  | next (timeout : Binary64)
  /-- Confirms that a payload was handled. -/
  | ack (payload : String)
  /-- Gives back what was taken and not confirmed, and tells how much it was. -/
  | requeue
  deriving Repr, DecidableEq

/-- The type of the reply to a call on the queue. -/
@[reducible]
def QueueCall.Reply : QueueCall → Type
  | .enqueue _ => Unit
  | .next _ => Option String
  | .ack _ => Unit
  | .requeue => Nat

/-- The two scans. -/
inductive ScanJob where
  | alertBand
  | sleepReminder
  deriving Repr, DecidableEq

/-- Everything that the service asks of its surroundings. -/
inductive Call where
  | store (c : StoreCall)
  | ledger (c : LedgerCall)
  /-- The alert range in the profile of a user. -/
  | profile (user : String)
  | notify (n : Notification)
  | queue (c : QueueCall)
  | now
  | count (c : Counter) (n : Nat)
  /-- Marks a scan as running, unless it is; tells whether the mark was set. -/
  | enter (job : ScanJob)
  /-- Takes the mark away. -/
  | leave (job : ScanJob)

/-- The type of the reply to a call. -/
@[reducible]
def Call.Reply : Call → Type
  | .store c => c.Reply
  | .ledger c => c.Reply
  | .profile _ => Option Int
  | .notify _ => Unit
  | .queue c => c.Reply
  | .now => Instant
  | .count _ _ => Unit
  | .enter _ => Bool
  | .leave _ => Unit

/-- A program of the service. -/
abbrev Operation (α : Type) := Program Call.Reply α

namespace Operation

/-- The program that makes one call. -/
def of (c : Call) : Operation c.Reply := .ask c

/-! Every call as a program. -/

def getString (key : String) : Operation (Option String) := of (.store (.getString key))

def setString (key value : String) (ttl : Option Nat) : Operation Unit :=
  of (.store (.setString key value ttl))

def getScore (set member : String) : Operation Int := of (.store (.getScore set member))

def setScore (set member : String) (value : Int) : Operation Unit :=
  of (.store (.setScore set member value))

def incrScore (set member : String) (delta : Int) : Operation Int :=
  of (.store (.incrScore set member delta))

def rangeByScore (set : String) (low : Int) (high : Option Int) : Operation (List String) :=
  of (.store (.rangeByScore set low high))

def removeMember (set member : String) : Operation Unit := of (.store (.removeMember set member))

def addSpent (user day : String) (seconds : Int) : Operation Unit :=
  of (.ledger (.add user day seconds))

def findStatistic (user day : String) : Operation (Option DailyStatistic) :=
  of (.ledger (.find user day))

def statisticsBetween (user first last : String) : Operation (List DailyStatistic) :=
  of (.ledger (.range user first last))

def profile (user : String) : Operation (Option Int) := of (.profile user)

def notify (n : Notification) : Operation Unit := of (.notify n)

def enqueue (e : ActivityEvent) : Operation Unit := of (.queue (.enqueue e))

def next (timeout : Binary64) : Operation (Option String) := of (.queue (.next timeout))

def ack (payload : String) : Operation Unit := of (.queue (.ack payload))

def requeue : Operation Nat := of (.queue .requeue)

def now : Operation Instant := of .now

def count (c : Counter) (n : Nat) : Operation Unit := of (.count c n)

def enter (job : ScanJob) : Operation Bool := of (.enter job)

def leave (job : ScanJob) : Operation Unit := of (.leave job)

end Operation

end Presence
