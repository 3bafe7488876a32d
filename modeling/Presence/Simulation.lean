import Presence.Consumer
import Presence.World

/-!
# The running service under virtual time

The consumer and the timers of the scans run in a world in which time passes only while everybody
waits. Time is counted in milliseconds from the start. Handlers and scans take no time; what takes
time is to wait for a payload, to rest after the queue could not be read, and to wait for the next
entry of a script.
-/

set_option autoImplicit false

namespace Presence

/-- A consumer at work in a world. -/
structure Loop where
  consumer : Consumer
  world : World
  /-- The time at which the loop stops to wait or to rest. -/
  deadline : Nat := 0
  /-- Something was pushed since the loop began to wait. -/
  woken : Bool := false

namespace Loop

/-- The time for which the loop waits for a payload. -/
def pollMillis : Nat := 1000

/-- The time for which the loop rests after the queue could not be read. -/
def restMillis : Nat := 1000

/-- Lets an event happen to the consumer. -/
def after (l : Loop) (e : Consumer.Event) : Loop := { l with consumer := l.consumer.after e }

/-- Runs the handler of every payload in flight to its end, the first started first. -/
def handleAll (l : Loop) : Loop :=
  l.consumer.inFlight.foldl (fun l p =>
    { l with
      consumer := l.consumer.after (.finished p)
      world := (l.world.run (l.world.service.handle p)).2 }) l

/-- The queue of the world. -/
def queue (l : Loop) : Queue := l.world.memory.queue

/-- Replaces the queue of the world. -/
def withQueue (l : Loop) (q : Queue) : Loop :=
  { l with world := { l.world with memory := { l.world.memory with queue := q } } }

/-- Takes the oldest payload, or goes on without one. -/
def take (l : Loop) : Loop :=
  match l.queue.pop with
  | (some p, q) => (l.withQueue q).after (.taken p)
  | (none, _) => l.after .nothing

/-- Begins to read the queue at a time. -/
def beginNext (l : Loop) (time : Nat) : Loop :=
  match l.world.refusal (.queue (.next (Binary64.ofInt 1))) with
  | (some _, w) => { (({ l with world := w } : Loop).after .refused) with deadline := time + restMillis }
  | (none, w) =>
    let l : Loop := { l with world := w }
    if l.queue.ready.isEmpty then
      -- a signal from before the waiting ends it at once
      if l.queue.signal then (l.withQueue { l.queue with signal := false }).after .nothing
      else { l with deadline := time + pollMillis, woken := false }
    else l.take

/-- What the loop does next at a time, if it need not wait. Handlers run when the loop waits. -/
def once? (l : Loop) (told : Bool) (time : Nat) : Option Loop :=
  match l.consumer.phase with
  | .checking => some (l.after (.looked told))
  | .stopped => none
  | .acquiring =>
    if 0 < l.consumer.free then some ((l.after .acquired).beginNext time)
    else if l.consumer.inFlight.isEmpty then none
    else some l.handleAll
  -- the loop is about to wait, so the handlers have their turn
  | phase =>
    if !l.consumer.inFlight.isEmpty then some l.handleAll
    else
      match phase with
      | .waiting =>
        if l.woken then some { l.take with woken := false }
        else if told then some (l.after .signalChanged)
        else if l.deadline ≤ time then some (l.after .nothing)
        else none
      | .pausing => if l.deadline ≤ time then some (l.after .rested) else none
      | _ => if l.consumer.awaited ≤ l.consumer.free then some (l.after .drained) else none

/-- Goes on as long as the loop need not wait, at most a number of times. -/
def goOn (told : Bool) (time : Nat) : Nat → Loop → Loop
  | 0, l => l
  | n + 1, l =>
    match l.once? told time with
    | some l => goOn told time n l
    | none => l

/-- Goes on until the loop has to wait. A payload takes part in at most three rounds, and a few
rounds are without one. -/
def settle (l : Loop) (told : Bool) (time : Nat) : Loop :=
  goOn told time (4 * (l.queue.ready.length + l.consumer.inFlight.length) + 16) l

/-- Pushes a payload, which wakes the loop if it waits. -/
def push (l : Loop) (payload : String) : Loop :=
  if l.consumer.phase = .waiting ∧ !l.woken then
    { l.withQueue (l.queue.push payload) with woken := true }
  else l.withQueue (l.queue.submit payload)

/-- The loop has ended. -/
def isStopped (l : Loop) : Bool := l.consumer.phase = .stopped

/-- The loop waits or rests until its deadline. -/
def awaitsDeadline (l : Loop) : Bool := l.consumer.phase = .waiting || l.consumer.phase = .pausing

/-- Starts a consumer: what was taken before is given back, then the loop runs until it has to
wait. -/
def start (w : World) (concurrency : Nat) : Outcome Unit × Loop :=
  let consumer := Consumer.start concurrency
  match w.run Operation.requeue with
  | (.failed e, w) => (.failed e, ⟨consumer, w, 0, false⟩)
  | (.crashed c, w) => (.crashed c, ⟨consumer, w, 0, false⟩)
  | (.ok _, w) =>
    if Consumer.mostPermits < consumer.capacity then (.crashed .permits, ⟨consumer, w, 0, false⟩)
    else (.ok (), ({ consumer, world := w } : Loop).settle false 0)

/-- Runs the loop until everything is handled or ten seconds are over. -/
def untilEmpty : Nat → Nat → Loop → Nat × Loop
  | 0, time, l => (time, l)
  | n + 1, time, l =>
    if l.queue.ready.isEmpty && l.queue.processing.isEmpty then (time, l)
    else if l.awaitsDeadline && l.deadline ≤ 10000 then
      untilEmpty n l.deadline (l.settle false l.deadline)
    else (max time 10000, l)

/-- Tells the loop to stop at a time and lets it end; tells when it has ended. -/
def stop (l : Loop) (time : Nat) : Nat × Loop :=
  let l := l.settle true time
  if l.isStopped then (time, l)
  else
    -- what still rests does so until its deadline
    let time := max time l.deadline
    (time, l.settle true time)

/-- Lets a consumer handle what is in the queue, for at most ten seconds. -/
def drain (w : World) (concurrency : Nat) : Outcome Unit × World :=
  match start w concurrency with
  | (.ok _, l) =>
    let (time, l) := untilEmpty 64 0 l
    (.ok (), (l.stop time).2.world)
  | (o, l) => (o, l.world)

/-- Lets the loop end because nobody can tell it to stop any more. -/
def abandon (l : Loop) (time : Nat) : Loop :=
  let l := if l.consumer.phase = .waiting then l.after .signalLost else (l.stop time).2
  l.settle true time

end Loop

/-- A timer can have this period, in seconds: positive and below `2 ^ 63 - 1`. -/
def canTick (every : Nat) : Bool := 0 < every && every < 9223372036854775807

/-- Starts the timers and a consumer and gives up the signal to stop five milliseconds later. Tells
how the consumer ended and how many timers ended by themselves. -/
def World.abandon (w : World) : Outcome Unit × Nat × World :=
  let timers := (Settings.jobs.filter fun j => canTick (w.settings.schedule j).every).length
  match Loop.start w w.settings.workerConcurrency with
  | (.ok _, l) => (.ok (), timers, (l.abandon 5).world)
  | (o, l) => (o, timers, l.world)

/-- Something that happens to the running service. -/
inductive Deed where
  | enqueue (event : ActivityEvent)
  | push (payload : String)
  | switch (job : String) (active : Bool)
  | setScore (set member : String) (value : Int)
  deriving Repr, DecidableEq

/-- A script of deeds, each at its time, in the order of time. -/
abbrev Script := List (Nat × Deed)

/-- The running service. -/
structure Simulation where
  loop : Loop
  /-- How the consumer ended, if it ended at its start. -/
  result : Outcome Unit
  /-- The instant at which the time began. -/
  origin : Instant
  time : Nat := 0
  /-- The notifications that were sent, each with its time. -/
  log : List (Nat × Notification) := []

namespace Simulation

/-- The world of the running service. -/
def world (s : Simulation) : World := s.loop.world

/-- Replaces the world. -/
def withWorld (s : Simulation) (w : World) : Simulation := { s with loop := { s.loop with world := w } }

/-- Lets the clock show a time. -/
def atTime (s : Simulation) (time : Nat) : Simulation :=
  let now := (Instant.ofMillis? (s.origin.millis + time)).getD s.origin
  { s.withWorld (s.world.withClock ⟨now, false⟩) with time }

/-- Lets the consumer go on until it has to wait. -/
def settle (s : Simulation) : Simulation :=
  match s.result with
  | .ok _ => { s with loop := s.loop.settle false s.time }
  | _ => s

/-- Lets a deed happen. -/
def apply (s : Simulation) : Deed → Simulation
  | .enqueue event =>
    match s.world.refusal (.queue (.enqueue event)) with
    | (some _, w) => s.withWorld w
    | (none, w) => { s with loop := ({ s.loop with world := w } : Loop).push event.encode }
  | .push payload => { s with loop := s.loop.push payload }
  | .switch job active => s.withWorld (s.world.run (s.world.service.setActive job active)).2
  | .setScore set member value =>
    s.withWorld (s.world.runRaw (Operation.setScore set member value)).2

/-- Moves the notifications that were sent to the log. -/
def collect (s : Simulation) : Simulation :=
  let (sent, w) := s.world.takeSent
  { s.withWorld w with log := s.log ++ sent.map fun n => (s.time, n) }

/-- The scans whose timers go off at a time. -/
def ringing (s : Simulation) (time : Nat) : List ScanJob :=
  Settings.jobs.filter fun j =>
    let every := (s.world.settings.schedule j).every
    canTick every && time % (every * 1000) = 0

/-- Lets timers go off: first all schedules and switches are looked at, then the scans that are due
are run. -/
def ring (s : Simulation) (jobs : List ScanJob) : Simulation :=
  let (due, s) := jobs.foldl (fun (due, s) j =>
    match s.world.run (s.world.service.tick j (s.world.settings.schedule j) s.world.settings.timezone) with
    | (.ok .due, w) => (due ++ [j], s.withWorld w)
    | (_, w) => (due, s.withWorld w)) (([] : List ScanJob), s)
  (due.foldl (fun s j => s.withWorld (s.world.spawn j).2) s).collect

/-- The first time after the present one at which a timer goes off. -/
def nextRing (s : Simulation) : List Nat :=
  Settings.jobs.filterMap fun j =>
    let every := (s.world.settings.schedule j).every
    if canTick every then some ((s.time / (every * 1000) + 1) * (every * 1000)) else none

/-- The time at which the consumer goes on by itself. -/
def nextDeadline (s : Simulation) : List Nat :=
  match s.result with
  | .ok _ => if s.loop.awaitsDeadline then [s.loop.deadline] else []
  | _ => []

/-- The first of the times at which something happens, at most the end. -/
def nextTime (s : Simulation) (script : Script) (finish : Nat) : Nat :=
  ((script.take 1).map (·.1) ++ s.nextRing ++ s.nextDeadline).foldl min finish

/-- Runs a script up to its end, at most a number of rounds. -/
def play (finish : Nat) : Nat → Script → Simulation → Simulation
  | 0, _, s => s
  | n + 1, script, s =>
    let time := max s.time (s.nextTime script finish)
    let s' := s.atTime time
    let (here, later) := script.span fun e => e.1 ≤ time
    let s' := (here.foldl (fun s e => s.apply e.2) s').settle
    if finish ≤ time then s'
    else
      -- timers go off once a time, after the deeds of that time
      let s' := if s.time < time then s'.ring (s'.ringing time) else s'
      play finish n later s'

/-- Tells everybody to stop at the end; tells when all have stopped. -/
def stop (s : Simulation) : Nat × Simulation :=
  match s.result with
  | .ok _ =>
    let (time, loop) := s.loop.stop s.time
    (time, { s with loop })
  | _ => (s.time, s)

/-- Runs the service from its start to an end with a script. Every round but the first leads to a
later time or to later entries of the script. -/
def run (w : World) (script : Script) (finish : Nat) : Nat × Simulation :=
  let (result, loop) := Loop.start w w.settings.workerConcurrency
  let s : Simulation := { loop, result, origin := w.clock.now }
  (play finish (finish + script.length + 2) script s).stop

end Simulation

end Presence
