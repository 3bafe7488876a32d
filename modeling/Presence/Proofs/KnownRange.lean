import Presence.Proofs.ConcurrentClosing
import Presence.Proofs.UserCalls

/-!
# Operations from the alert range on

Every operation on a user asks for the alert range first, and what it does then depends on the
answer alone. An event works on the accrual set of that bucket only. Main statements: the equations
`onActivity_eq`, `onHeartbeat_eq` and `changeRange_eq`, the calls of an event that knows its bucket
(`only_activityIn`, `only_heartbeatIn`), and the kinds of calls that hold all calls of an operation
(`Admits`).
-/

set_option autoImplicit false

namespace Presence.Service

open Operation Program

variable (s : Service) (user : String)

/-- An activity at a time that works on a bucket. -/
def activityIn (bucket : Int) (time : Instant) : Operation Accrual := do
  let set := s.keys.accrualSet bucket
  let accrued ← getScore set user
  let marker ← getString (s.keys.sessionMarker user)
  setString (s.keys.sessionMarker user) (toString time.millis) (some s.session.markerSeconds)
  s.judge user set accrued time (marker.bind marker?)

/-- A heartbeat that works on a bucket. -/
def heartbeatIn (bucket : Int) : Operation Accrual := do
  let set := s.keys.accrualSet bucket
  match ← getString (s.keys.sessionMarker user) with
  | some _ => pure .unchanged
  | none =>
    let accrued ← getScore set user
    if accrued ≤ 0 then pure .unchanged
    else
      let time ← now
      let _ ← s.closeSession user set accrued time
      pure (.expired accrued)

/-- Stores the alert range of a user and lists the bucket. -/
def enlist (range : Int) : Operation Unit := do
  setString (s.keys.alertRange user) (toString range) none
  s.registerBucket range

/-- A change from one alert range to another. -/
def changeFrom (previous range : Int) : Operation Unit := do
  if previous = range then pure () else s.moveAccrual user previous range
  s.enlist user range

theorem onActivity_eq : s.onActivity user = (do
    let time ← now
    let bucket ← s.resolve user
    s.activityIn user bucket time) := rfl

theorem onHeartbeat_eq : s.onHeartbeat user = (do
    let bucket ← s.resolve user
    s.heartbeatIn user bucket) := rfl

theorem changeRange_eq (range : Int) : s.changeRange user range =
    if range ≤ 0 then .fail (.nonPositiveRange range)
    else s.resolve user >>= fun previous => s.changeFrom user previous range := rfl

theorem loadRange_eq : s.loadRange user = (do
    match ← (profile user).attempt with
    | .error _ => pure s.defaultRange
    | .ok chosen =>
      s.enlist user ((chosen.filter fun r => 0 < r).getD s.defaultRange)
      pure ((chosen.filter fun r => 0 < r).getD s.defaultRange)) := by
  unfold loadRange enlist
  congr 1
  funext chosen
  cases chosen with
  | error e => rfl
  | ok r => exact (bind_assoc _ _ _).symm

variable {s user} {b : Int}

theorem only_closeSession_event (accrued : Int) (t : Instant) :
    (s.closeSession user (s.keys.accrualSet b) accrued t).Only (s.EventCall user b) := by
  refine Only.bind (only_ask .reset) fun _ => ?_
  split
  · exact only_pure 0
  · refine Only.bind (Only.bind (only_ask (.add _ _)) fun _ => ?_) fun _ => only_pure _
    exact Only.bind (only_ask (.count _ _)) fun _ => only_ask (.count _ _)

theorem only_judge_event (accrued : Int) (t : Instant) (lastSeen : Option Instant) :
    (s.judge user (s.keys.accrualSet b) accrued t lastSeen).Only (s.EventCall user b) :=
  only_judge_of (only_closeSession_event accrued t) (fun _ => .extend _) lastSeen

/-- An activity that knows its bucket makes the calls of an event on this bucket. -/
theorem only_activityIn (b : Int) (t : Instant) :
    (s.activityIn user b t).Only (s.EventCall user b) := by
  refine Only.bind (only_ask .getScore) fun accrued => ?_
  refine Only.bind (only_ask (.getString _)) fun marker => ?_
  exact Only.bind (only_ask (.mark _ _)) fun _ => only_judge_event accrued t _

theorem only_heartbeatIn (b : Int) : (s.heartbeatIn user b).Only (s.EventCall user b) := by
  refine Only.bind (only_ask (.getString _)) fun marker => ?_
  cases marker with
  | some text => exact only_pure _
  | none =>
      refine Only.bind (only_ask .getScore) fun accrued => ?_
      split
      · exact only_pure _
      · refine Only.bind (only_ask .now) fun t => ?_
        exact Only.bind (only_closeSession_event accrued t) fun _ => only_pure _

/-! ## Kinds of calls -/

/-- A kind that holds every call an operation on a user can make at an instant: whatever is asked of
the presence store, the profile of the user, and the session that is written. -/
structure Admits (s : Service) (user : String) (time : Instant) (P : Call → Prop) : Prop where
  store (c : StoreCall) : P (.store c)
  profile : P (.profile user)
  spend {n : Int} (h : 0 < n) : P (.ledger (.add user (s.session.zone.dayKey time) n))
  flushed : P (.count .sessionsFlushed 1)
  seconds (n : Nat) : P (.count .flushedSeconds n)

namespace Admits

variable {P : Call → Prop} {t : Instant}

theorem enlist (h : s.Admits user t P) (range : Int) : (s.enlist user range).Only P :=
  Only.bind (only_ask (h.store _)) fun _ => only_ask (h.store _)

theorem resolve (h : s.Admits user t P) : (s.resolve user).Only P := by
  refine Only.bind (only_ask (h.store _)) fun text => ?_
  cases cachedRange? text with
  | some r => exact only_pure r
  | none =>
      rw [loadRange_eq]
      refine Only.bind (Only.attempt (only_ask h.profile)) fun chosen => ?_
      cases chosen with
      | error e => exact only_pure _
      | ok r => exact Only.bind (h.enlist _) fun _ => only_pure _

theorem closeSession (h : s.Admits user t P) (set : String) (accrued : Int) :
    (s.closeSession user set accrued t).Only P := by
  refine Only.bind (only_ask (h.store _)) fun _ => ?_
  split
  · exact only_pure 0
  · rename_i hpos
    refine Only.bind (Only.bind (only_ask (h.spend (Int.not_le.1 hpos))) fun _ => ?_) fun _ =>
      only_pure _
    exact Only.bind (only_ask h.flushed) fun _ => only_ask (h.seconds _)

theorem activityIn (h : s.Admits user t P) (b : Int) : (s.activityIn user b t).Only P := by
  refine Only.bind (only_ask (h.store _)) fun accrued => ?_
  refine Only.bind (only_ask (h.store _)) fun marker => ?_
  exact Only.bind (only_ask (h.store _)) fun _ =>
    only_judge_of (h.closeSession _ accrued) (fun _ _ => h.store _) _

theorem changeRange (h : s.Admits user t P) (range : Int) : (s.changeRange user range).Only P := by
  rw [changeRange_eq]
  split
  · exact True.intro
  · refine Only.bind h.resolve fun previous => ?_
    unfold changeFrom
    split
    · exact h.enlist range
    · refine Only.bind (Only.bind (only_ask (h.store _)) fun accrued => ?_) fun _ => h.enlist range
      exact Only.bind (only_ask (h.store _)) fun _ =>
        Only.bind (only_ask (h.store _)) fun _ => only_pure _

/-- An event writes at most one session, at the instant that it reads from the clock. -/
theorem onActivity (h : ∀ t, s.Admits user t P) (hnow : P .now) : (s.onActivity user).Only P := by
  rw [onActivity_eq]
  exact Only.bind (only_ask hnow) fun t => Only.bind (h t).resolve fun b => (h t).activityIn b

theorem onHeartbeat (h : ∀ t, s.Admits user t P) (hnow : P .now) :
    (s.onHeartbeat user).Only P := by
  refine Only.bind (h Clock.noon).resolve fun b => ?_
  refine Only.bind (only_ask ((h Clock.noon).store _)) fun marker => ?_
  cases marker with
  | some text => exact only_pure _
  | none =>
      refine Only.bind (only_ask ((h Clock.noon).store _)) fun accrued => ?_
      split
      · exact only_pure _
      · refine Only.bind (only_ask hnow) fun t => ?_
        exact Only.bind ((h t).closeSession _ accrued) fun _ => only_pure _

end Admits

end Presence.Service
