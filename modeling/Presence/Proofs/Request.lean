import Presence.Proofs.Evaluation
import Presence.Scan

/-!
# Requests one after another

A request names an operation of the service and its arguments. `Memory.proceed` lets requests,
profile updates and moves of the clock happen one after another in memory and notes how each
request ended.
-/

set_option autoImplicit false

namespace Presence

/-- What the service can be asked to do. -/
inductive Request where
  | activity (user : String)
  | heartbeat (user : String)
  | changeRange (user : String) (range : Int)
  | resolve (user : String)
  | liveAccrual (user : String)
  | knownBuckets
  | scan (job : ScanJob)
  deriving Repr, DecidableEq

/-- The value with which a request ends. -/
inductive Report where
  | accrual (a : Accrual)
  | changed
  | range (r : Int)
  | seconds (n : Int)
  | buckets (bs : List Int)
  | scanned (r : ScanReport)
  deriving Repr, DecidableEq

/-- The operation that serves a request. -/
def Service.perform (s : Service) : Request → Operation Report
  | .activity u => do pure (.accrual (← s.onActivity u))
  | .heartbeat u => do pure (.accrual (← s.onHeartbeat u))
  | .changeRange u r => do
    s.changeRange u r
    pure .changed
  | .resolve u => do pure (.range (← s.resolve u))
  | .liveAccrual u => do pure (.seconds (← s.liveAccrual u))
  | .knownBuckets => do pure (.buckets (← s.knownBuckets))
  | .scan job => do pure (.scanned (← s.scan job))

/-- The seconds that an event has added to the accrued time of its user. -/
def Accrual.gained : Accrual → Int
  | .accrued gap => gap
  | _ => 0

/-- The seconds that an event has moved to the daily statistics. -/
def Accrual.flushed : Accrual → Int
  | .started n => n
  | .restarted _ n => n
  | .expired n => n
  | _ => 0

/-- How a request has ended. -/
structure Entry where
  request : Request
  outcome : Outcome Report
  deriving DecidableEq

namespace Entry

/-- What became of the session, if the request was an event that ended with a value. -/
def accrual? (e : Entry) : Option Accrual :=
  match e.outcome with
  | .ok (.accrual a) => some a
  | _ => none

/-- The seconds that the request has added to the accrued time of a user. -/
def gained (user : String) (e : Entry) : Int :=
  match e.request, e.accrual? with
  | .activity u, some a => if user = u then a.gained else 0
  | .heartbeat u, some a => if user = u then a.gained else 0
  | _, _ => 0

/-- The seconds that the request has moved to the daily statistics. -/
def flushed (e : Entry) : Int := e.accrual?.elim 0 Accrual.flushed

end Entry

/-- The instant that many seconds after noon. -/
def Clock.afterNoon (seconds : UInt16) : Instant :=
  ⟨Clock.noon.millis + 1000 * seconds.toNat, by
    have := seconds.toNat_lt
    simp only [Clock.noon]
    omega⟩

/-- Something that happens around or to the service. -/
inductive Happening where
  | request (r : Request)
  /-- A user chooses an alert range in the profile. -/
  | profile (user : String) (range : Int)
  | clock (t : Instant)
  deriving DecidableEq

/-- The service with the standard settings. -/
def Service.standard : Service := ⟨⟨none⟩, 5, .standard, .standard⟩

namespace Memory

/-- Empty surroundings at an instant. -/
def fresh (t : Instant) : Memory := { clock := ⟨t, false⟩ }

/-- Lets one thing happen. -/
def happen (s : Service) : Happening → Memory → List Entry × Memory
  | .request r, m => ([⟨r, (m.run (s.perform r)).1⟩], (m.run (s.perform r)).2)
  | .profile u r, m => ([], { m with profiles := m.profiles.set u r })
  | .clock t, m => ([], m.clockAt t)

/-- Lets things happen one after another. -/
def proceed (s : Service) : List Happening → Memory → List Entry × Memory
  | [], m => ([], m)
  | h :: rest, m =>
    let (es, m) := m.happen s h
    let (fs, m) := m.proceed s rest
    (es ++ fs, m)

theorem proceed_append (s : Service) (hs ks : List Happening) (m : Memory) :
    m.proceed s (hs ++ ks) =
      ((m.proceed s hs).1 ++ ((m.proceed s hs).2.proceed s ks).1,
        ((m.proceed s hs).2.proceed s ks).2) := by
  induction hs generalizing m with
  | nil => rfl
  | cons h rest ih =>
      simp only [List.cons_append, proceed, ih, List.append_assoc]

end Memory

end Presence
