import Presence.Call

/-!
# A queue in memory

What was taken from the queue is kept as being processed until it is confirmed, so that it can be
given back. The queue remembers one signal that something was pushed while nobody waited.
-/

set_option autoImplicit false

namespace Presence

/-- The payloads that are ready, the oldest first, and those being processed, the first taken
first. -/
structure Queue where
  ready : List String := []
  processing : List String := []
  /-- Something was pushed while nobody waited, and nobody has waited since. -/
  signal : Bool := false
  deriving Repr, DecidableEq

namespace Queue

/-- Adds a payload at the end. -/
def push (q : Queue) (payload : String) : Queue := { q with ready := q.ready ++ [payload] }

/-- Adds a payload at the end while nobody waits. -/
def submit (q : Queue) (payload : String) : Queue := { q.push payload with signal := true }

/-- Takes the oldest payload that is ready. -/
def pop (q : Queue) : Option String × Queue :=
  match q.ready with
  | [] => (none, q)
  | p :: rest => (some p, { q with ready := rest, processing := q.processing ++ [p] })

/-- Confirms one of the payloads being processed that are equal to a text. -/
def ack (q : Queue) (payload : String) : Queue :=
  { q with processing := q.processing.erase payload }

/-- Gives back everything that is being processed, in front of what is ready. -/
def requeue (q : Queue) : Nat × Queue :=
  (q.processing.length,
    { q with
      ready := q.processing ++ q.ready
      processing := []
      signal := q.signal || !q.processing.isEmpty })

/-- Payloads in the order in which they came in: those being processed, then those ready. -/
def content (q : Queue) : List String := q.processing ++ q.ready

/-- A time that can be waited for: below `2 ^ 64` seconds. What is no number counts as none. -/
def canWait : Binary64 → Bool
  | .nan => true
  | .infinite negative => negative
  | .finite negative m e => negative || Binary64.magnitude m e < 18446744073709551616

/-- Takes the oldest payload, where nothing is pushed while it waits: with nothing ready it comes
back without a payload, at once or when the time is over. -/
def next (q : Queue) (timeout : Binary64) : Outcome (Option String) × Queue :=
  match q.pop with
  | (some p, q) => (.ok (some p), q)
  | (none, q) =>
    if canWait timeout then (.ok none, { q with signal := false }) else (.crashed .waiting, q)

/-- Answers a call while nobody else waits for a payload. -/
def serve : (c : QueueCall) → Queue → Outcome c.Reply × Queue
  | .enqueue event, q => (.ok (), q.submit event.encode)
  | .next timeout, q => q.next timeout
  | .ack payload, q => (.ok (), q.ack payload)
  | .requeue, q => (.ok q.requeue.1, q.requeue.2)

/-- What is pushed came in last. -/
theorem content_push (q : Queue) (p : String) : (q.push p).content = q.content ++ [p] := by
  simp [push, content]

/-- What is taken stays in its place among what came in. -/
theorem content_pop (q : Queue) : q.pop.2.content = q.content := by
  unfold pop content
  split
  · rfl
  · rename_i h
    simp [h]

/-- What is given back stands where it came in. -/
theorem content_requeue (q : Queue) : q.requeue.2.content = q.content := by
  simp [requeue, content]

end Queue

end Presence
