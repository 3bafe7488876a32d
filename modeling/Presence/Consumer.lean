/-!
# The consumer of the queue

The consumer is a loop that takes payloads from the queue and starts a handler for each. A fixed
number of permits bounds the handlers in flight: the loop takes a permit before it looks at the
queue and hands it to the handler, which gives it back at its end. When the loop is told to stop it
waits until the permits are back.

`step?` says what may happen to the loop, whatever the queue and the handlers do.
-/

set_option autoImplicit false

namespace Presence

namespace Consumer

/-- Where the loop stands. -/
inductive Phase where
  /-- It is about to look whether it has been told to stop. -/
  | checking
  /-- It waits for a free permit. -/
  | acquiring
  /-- It holds a permit and waits for a payload. -/
  | waiting
  /-- It holds a permit and rests because the queue could not be read. -/
  | pausing
  /-- It takes no more payloads and waits for the handlers. -/
  | draining
  | stopped
  deriving Repr, DecidableEq

/-- What can happen to the loop. -/
inductive Event where
  /-- It looks whether it has been told to stop. -/
  | looked (told : Bool)
  /-- It takes a free permit. -/
  | acquired
  /-- The queue hands out a payload, for which a handler starts. -/
  | taken (payload : String)
  /-- The queue hands out nothing in time. -/
  | nothing
  /-- The queue cannot be read. -/
  | refused
  /-- The rest after an error is over. -/
  | rested
  /-- The signal to stop has changed, to whatever value. -/
  | signalChanged
  /-- Nobody can tell it to stop any more. -/
  | signalLost
  /-- A handler ends, however it ends. -/
  | finished (payload : String)
  /-- All permits that the loop waits for are back. -/
  | drained
  deriving Repr, DecidableEq

end Consumer

/-- The state of a consumer. -/
structure Consumer where
  /-- The number of permits. -/
  capacity : Nat
  /-- The number of permits that nobody holds. -/
  free : Nat
  /-- The payloads whose handlers run, the first started first. -/
  inFlight : List String
  phase : Consumer.Phase
  deriving Repr, DecidableEq

namespace Consumer

/-- The greatest number of permits, `2 ^ 61 - 1`. -/
def mostPermits : Nat := 2305843009213693951

/-- A consumer at its start. At least one payload is handled at a time. -/
def start (concurrency : Nat) : Consumer :=
  let n := max 1 concurrency
  ⟨n, n, [], .checking⟩

/-- The number of permits that the loop waits for at its end: the number of permits as a word of 32
bits, kept below `2 ^ 32`. -/
def awaited (c : Consumer) : Nat := c.capacity % 4294967296

/-- The number of permits that the loop holds. -/
def held (c : Consumer) : Nat :=
  match c.phase with
  | .waiting => 1
  | .pausing => 1
  | _ => 0

/-- The state after an event, if the event can happen. -/
def step? (c : Consumer) (e : Event) : Option Consumer :=
  match c.phase, e with
  | .checking, .looked told => some { c with phase := if told then .draining else .acquiring }
  | .acquiring, .acquired =>
    if 0 < c.free then some { c with free := c.free - 1, phase := .waiting } else none
  | .waiting, .taken p => some { c with inFlight := c.inFlight ++ [p], phase := .checking }
  | .waiting, .nothing => some { c with free := c.free + 1, phase := .checking }
  | .waiting, .refused => some { c with phase := .pausing }
  | .waiting, .signalChanged => some { c with free := c.free + 1, phase := .checking }
  | .waiting, .signalLost => some { c with free := c.free + 1, phase := .draining }
  | .pausing, .rested => some { c with free := c.free + 1, phase := .checking }
  | .draining, .drained => if c.awaited ≤ c.free then some { c with phase := .stopped } else none
  | _, .finished p =>
    if p ∈ c.inFlight then
      some { c with inFlight := c.inFlight.erase p, free := c.free + 1 }
    else none
  | _, _ => none

/-- The state after an event, the same state where the event cannot happen. -/
def after (c : Consumer) (e : Event) : Consumer := (c.step? e).getD c

end Consumer

end Presence
