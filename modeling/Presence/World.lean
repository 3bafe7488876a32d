import Presence.Fault
import Presence.JobSwitch
import Presence.Memory
import Presence.Payload
import Presence.Query
import Presence.Settings

/-!
# A service with surroundings in memory

A world is the service, its surroundings in memory and the faults that are in force. Operations run
in it to their end (`run`), several activities of one moment can be interleaved (`race`), and a
scan can be started while another one waits for its first notification to be sent (`overlap`).
-/

set_option autoImplicit false

namespace Presence

/-- A service and its surroundings. -/
structure World where
  settings : Settings
  memory : Memory
  faults : List Fault := []

namespace World

/-- The world at the beginning, at an instant. -/
def start (settings : Settings) (now : Instant) : World := ⟨settings, { clock := ⟨now, false⟩ }, []⟩

/-- The service of the world. -/
def service (w : World) : Service := w.settings.service

/-- The clock of the surroundings. -/
def clock (w : World) : Clock := w.memory.clock

/-- Replaces the clock of the surroundings. -/
def withClock (w : World) (c : Clock) : World := { w with memory := { w.memory with clock := c } }

/-- Whether a fault makes a call fail, after which the call is counted. -/
def refusal (w : World) (c : Call) : Option Failure × World :=
  match c.site? with
  | none => (none, w)
  | some s => let (r, fs) := Fault.check s w.faults; (r, { w with faults := fs })

/-- Answers a call: a fault that is due makes it fail, else the surroundings answer. -/
def serve (c : Call) (w : World) : Outcome c.Reply × World :=
  match w.refusal c with
  | (some e, w) => (.failed e, w)
  | (none, w) => let (r, m) := Memory.serve c w.memory; (r, { w with memory := m })

/-- Runs an operation to its end. -/
def run {α : Type} (op : Operation α) (w : World) : Outcome α × World := Program.run serve op w

/-- Runs an operation that no fault touches. -/
def runRaw {α : Type} (op : Operation α) (w : World) : Outcome α × World :=
  let (r, m) := Memory.run op w.memory
  (r, { w with memory := m })

/-- The notifications since they were last taken, which are then forgotten. -/
def takeSent (w : World) : List Notification × World :=
  (w.memory.sent, { w with memory := { w.memory with sent := [] } })

/-- Runs operations one after another. -/
def runAll {α : Type} : List (Operation α) → World → List (Outcome α) × World
  | [], w => ([], w)
  | op :: rest, w =>
    let (o, w) := w.run op
    let (os, w) := runAll rest w
    (o :: os, w)

/-- Whether a call reads the session marker of a user. -/
def readsMarker (w : World) (user : String) : Call → Bool
  | .store (.getString key) => key = w.service.keys.sessionMarker user
  | _ => false

/-- Starts an activity for each user, each up to its reading of the session marker. -/
def startActivities : List String → World → List (Operation Accrual) × World
  | [], w => ([], w)
  | user :: rest, w =>
    let (op, w) := Program.advance serve (w.readsMarker user) (w.service.onActivity user) w
    let (ops, w) := startActivities rest w
    (op :: ops, w)

/-- One activity for each user, where each has read its session marker before any goes on. The one
that read last goes on first, then the others in order. -/
def race (w : World) (users : List String) : List (Outcome Accrual) × World :=
  let (ops, w) := startActivities users w
  -- the barrier opens when the last one arrives, which runs on at once
  match ops.reverse with
  | [] => ([], w)
  | last :: before =>
    let (o, w) := w.run last
    let (os, w) := runAll before.reverse w
    (os ++ [o], w)

/-- Whether a call sends a notification that no fault holds back. -/
def sendsNow (c : Call) (w : World) : Bool :=
  match c with
  | .notify _ => (w.refusal c).1.isNone
  | _ => false

/-- What became of two overlapping scans. -/
structure Overlap where
  first : Outcome ScanReport
  second : Outcome ScanReport
  /-- The scans that were running while the first one waited. -/
  running : ScanJob → Bool

/-- Starts a scan, starts it again while the first one waits for its first notification to be sent,
and lets the first one go on. -/
def overlap (w : World) (job : ScanJob) : Overlap × World :=
  let (waiting, w) := Program.advanceTo serve sendsNow (w.service.scan job) w
  -- the first scan waits here, before its first notification
  let guards := w.memory.guards
  let (second, w) := w.run (w.service.scan job)
  let (first, w) := w.run waiting
  (⟨first, second, fun j => (guards j).isRunning⟩, w)

/-- What became of a tick. -/
inductive TickReport where
  | outsideWindow
  | disabled
  /-- The scan was run, and crashed or not. -/
  | spawned (crashed : Bool)
  deriving Repr, DecidableEq

/-- Runs a scan on its own; only whether it crashed is seen. -/
def spawn (w : World) (job : ScanJob) : Bool × World :=
  match w.run (w.service.scan job) with
  | (.crashed _, w) => (true, w)
  | (_, w) => (false, w)

/-- A tick of a job's timer with a schedule, and the scan if it is due. -/
def tick (w : World) (job : ScanJob) (schedule : Schedule) : Outcome TickReport × World :=
  match w.run (w.service.tick job schedule w.settings.timezone) with
  | (.ok .outsideWindow, w) => (.ok .outsideWindow, w)
  | (.ok .disabled, w) => (.ok .disabled, w)
  | (.ok .due, w) => let (crashed, w) := w.spawn job; (.ok (.spawned crashed), w)
  | (.failed e, w) => (.failed e, w)
  | (.crashed c, w) => (.crashed c, w)

end World

end Presence
