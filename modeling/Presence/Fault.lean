import Presence.Call

/-!
# Faults

A fault makes calls of a kind fail for a while: the calls that it applies to are counted, a number
of them succeed, then a number of them fail, and the rest succeed again. Of several faults the
first that makes a call fail ends the search, and those after it do not count the call.
-/

set_option autoImplicit false

namespace Presence

/-- What a call is made to. -/
inductive Backend where
  | presence
  | statistics
  | profiles
  | notifier
  | queue
  deriving Repr, DecidableEq

/-- What is known of a call before it is made: the backend, the method and the first argument. -/
structure CallSite where
  backend : Backend
  method : String
  argument : String
  deriving Repr, DecidableEq

/-- The site of a call on the presence store. -/
def StoreCall.site : StoreCall → CallSite
  | .getString key => ⟨.presence, "get_string", key⟩
  | .setString key _ _ => ⟨.presence, "set_string", key⟩
  | .getScore set _ => ⟨.presence, "get_score", set⟩
  | .setScore set _ _ => ⟨.presence, "set_score", set⟩
  | .incrScore set _ _ => ⟨.presence, "incr_score", set⟩
  | .rangeByScore set _ _ => ⟨.presence, "range_by_score", set⟩
  | .removeMember set _ => ⟨.presence, "remove_member", set⟩

/-- The site of a call on the daily statistics. -/
def LedgerCall.site : LedgerCall → CallSite
  | .add user _ _ => ⟨.statistics, "increment_or_insert", user⟩
  | .find user _ => ⟨.statistics, "find", user⟩
  | .range user _ _ => ⟨.statistics, "find_range", user⟩

/-- The site of a call on the queue. -/
def QueueCall.site : QueueCall → CallSite
  | .enqueue event => ⟨.queue, "enqueue", event.user⟩
  | .next _ => ⟨.queue, "next", ""⟩
  | .ack payload => ⟨.queue, "ack", payload⟩
  | .requeue => ⟨.queue, "requeue_pending", ""⟩

/-- The site of a call, if the call is made to a backend that can fail. -/
def Call.site? : Call → Option CallSite
  | .store c => some c.site
  | .ledger c => some c.site
  | .profile user => some ⟨.profiles, "alert_range", user⟩
  | .notify n => some ⟨.notifier, "notify", n.user⟩
  | .queue c => some c.site
  | .now => none
  | .count _ _ => none
  | .enter _ => none
  | .leave _ => none

/-- A fault of a backend. -/
structure Fault where
  backend : Backend
  /-- The method that fails; any method where the name is empty. -/
  method : String
  /-- The text with which the first argument has to begin. -/
  argument : String
  /-- The number of calls that still succeed. -/
  skip : Nat := 0
  /-- The number of calls that fail. -/
  times : Nat := 1
  message : String
  /-- The number of calls so far. -/
  seen : Nat := 0
  deriving Repr, DecidableEq

namespace Fault

/-- The fault applies to a call. -/
def appliesTo (f : Fault) (s : CallSite) : Bool :=
  f.backend = s.backend && (f.method = "" || f.method = s.method) &&
    f.argument.toList.isPrefixOf s.argument.toList

/-- The next call that the fault applies to fails. -/
def isDue (f : Fault) : Bool := f.skip ≤ f.seen && f.seen < f.skip + f.times

/-- Whether a call fails, and the faults after it. -/
def check (s : CallSite) : List Fault → Option Failure × List Fault
  | [] => (none, [])
  | f :: rest =>
    if f.appliesTo s then
      let counted := { f with seen := f.seen + 1 }
      if f.isDue then (some (.reported f.message), counted :: rest)
      else let (r, rest) := check s rest; (r, counted :: rest)
    else let (r, rest) := check s rest; (r, f :: rest)

end Fault

end Presence
