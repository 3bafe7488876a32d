import Presence.Proofs.Contract
import Presence.Proofs.Reading
import Presence.Proofs.Request

/-!
# The calls of an operation on a user

An operation on a user asks for what is kept of this user, and writes nothing else but the index of
buckets. Only activities renew the session marker, and only a change of the alert range moves
accrued time. Main statements: `only_onHeartbeat`, `only_onActivity`, `only_changeRange`, and
`only_perform` for every request about a user.
-/

set_option autoImplicit false

namespace Presence

namespace Program

variable {κ : Type} {Reply : κ → Type} {α : Type} {P : κ → Prop}

/-- A program keeps a contract that allows all its calls where a condition holds that they keep. -/
theorem Only.keeps {σ : Type} {K : Contract Reply σ} {I : σ → Prop}
    (h : ∀ c s, P c → I s → K.allows c s ∧ ∀ r t, K.answers c s r t → I t)
    {p : Program Reply α} (hp : Only P p) {s : σ} (hs : I s) : Keeps K (fun _ t => I t) p s := by
  induction p generalizing s with
  | done o => exact hs
  | call c next ih =>
      obtain ⟨ha, ht⟩ := h c s hp.1 hs
      exact ⟨ha, fun r t hr => ih r (hp.2 r) (ht r t hr)⟩

end Program

/-- The seconds that a call adds to a score or to the daily statistics. -/
def Call.added : Call → Int
  | .store (.incrScore _ _ seconds) => seconds
  | .ledger (.add _ _ seconds) => seconds
  | _ => 0

/-- The user that a request is about. -/
def Request.user? : Request → Option String
  | .activity u | .heartbeat u | .changeRange u _ | .resolve u | .liveAccrual u => some u
  | .knownBuckets | .scan _ => none

namespace Service

open Operation Program

variable {s : Service} {user : String}

/-- The calls of every operation on a user. -/
inductive UserCall (s : Service) (user : String) : Call → Prop
  | now : UserCall s user .now
  | count (c : Counter) (n : Nat) : UserCall s user (.count c n)
  | profile : UserCall s user (.profile user)
  | getMarker : UserCall s user (.store (.getString (s.keys.sessionMarker user)))
  | getRange : UserCall s user (.store (.getString (s.keys.alertRange user)))
  | setRange (range : Int) :
      UserCall s user (.store (.setString (s.keys.alertRange user) (toString range) none))
  | list (bucket : Int) :
      UserCall s user (.store (.setScore s.keys.bucketIndex (toString bucket) bucket))
  | getScore (b : Int) : UserCall s user (.store (.getScore (s.keys.accrualSet b) user))
  | reset (b : Int) : UserCall s user (.store (.setScore (s.keys.accrualSet b) user 0))
  | gain (b : Int) {gap : Int} (h : 0 < gap) :
      UserCall s user (.store (.incrScore (s.keys.accrualSet b) user gap))
  | spend (day : String) {seconds : Int} (h : 0 < seconds) :
      UserCall s user (.ledger (.add user day seconds))

/-- The calls that renew the session marker of a user. -/
inductive MarkCall (s : Service) (user : String) : Call → Prop
  | mark (text : String) (ttl : Option Nat) :
      MarkCall s user (.store (.setString (s.keys.sessionMarker user) text ttl))

/-- The calls that move the accrued time of a user. -/
inductive MoveCall (s : Service) (user : String) : Call → Prop
  | lift (b : Int) : MoveCall s user (.store (.removeMember (s.keys.accrualSet b) user))
  | drop (b seconds : Int) :
      MoveCall s user (.store (.incrScore (s.keys.accrualSet b) user seconds))

/-- The calls of the operations on a user. -/
inductive OwnCall (s : Service) (user : String) (c : Call) : Prop
  | any (h : s.UserCall user c)
  | mark (h : s.MarkCall user c)
  | move (h : s.MoveCall user c)

/-! ## Alert ranges -/

/-- Asking for the alert range adds no seconds anywhere. -/
theorem only_resolve_added (user : String) :
    (s.resolve user).Only fun c => s.UserCall user c ∧ c.added = 0 := by
  refine Only.bind (only_ask ⟨.getRange, rfl⟩) fun text => ?_
  cases cachedRange? text with
  | some r => exact only_pure r
  | none =>
      -- the range is looked up in the profile, stored and listed
      refine Only.bind (Only.attempt (only_ask ⟨.profile, rfl⟩)) fun chosen => ?_
      cases chosen with
      | error e => exact only_pure _
      | ok r =>
          refine Only.bind (only_ask ⟨.setRange _, rfl⟩) fun _ => ?_
          exact Only.bind (only_ask ⟨.list _, rfl⟩) fun _ => only_pure _

theorem only_resolve (user : String) : (s.resolve user).Only (s.UserCall user) :=
  (only_resolve_added user).mono fun _ => And.left

/-- Storing and listing the range of a user. -/
theorem only_enlist (user : String) (range : Int) : (do
    setString (s.keys.alertRange user) (toString range) none
    s.registerBucket range : Operation Unit).Only (s.UserCall user) :=
  Only.bind (only_ask (.setRange range)) fun _ => only_ask (.list range)

theorem only_moveAccrual (user : String) (previous range : Int) :
    (s.moveAccrual user previous range).Only fun c => s.UserCall user c ∨ s.MoveCall user c := by
  refine Only.bind (only_ask (.inl (.getScore _))) fun accrued => ?_
  refine Only.bind (only_ask (.inr (.lift _))) fun _ => ?_
  exact Only.bind (only_ask (.inr (.drop _ _))) fun _ => only_pure _

theorem only_changeRange (user : String) (range : Int) :
    (s.changeRange user range).Only fun c => s.UserCall user c ∨ s.MoveCall user c := by
  have hl : (do
      setString (s.keys.alertRange user) (toString range) none
      s.registerBucket range : Operation Unit).Only
        fun c => s.UserCall user c ∨ s.MoveCall user c :=
    (only_enlist user range).mono fun _ => .inl
  unfold changeRange
  split
  · -- a range that is not positive is rejected at once
    exact True.intro
  · refine Only.bind ((only_resolve user).mono fun _ => .inl) fun previous => ?_
    dsimp only
    split
    · exact hl
    · exact Only.bind (only_moveAccrual user previous range) fun _ => hl

theorem only_liveAccrual (user : String) : (s.liveAccrual user).Only (s.UserCall user) :=
  Only.bind (only_resolve user) fun b => only_ask (.getScore b)

/-! ## Sessions -/

theorem only_closeSession (user : String) (b accrued : Int) (t : Instant) :
    (s.closeSession user (s.keys.accrualSet b) accrued t).Only (s.UserCall user) := by
  refine Only.bind (only_ask (.reset b)) fun _ => ?_
  split
  · exact only_pure 0
  · rename_i hpos
    refine Only.bind ?_ fun _ => only_pure _
    refine Only.bind (only_ask (.spend _ (Int.not_le.1 hpos))) fun _ => ?_
    exact Only.bind (only_ask (.count _ _)) fun _ => only_ask (.count _ _)

/-- What follows the renewal of the marker ends the session, or it makes the session longer. -/
theorem only_judge_of {P : Call → Prop} {set : String} {accrued : Int} {t : Instant}
    (hclose : (s.closeSession user set accrued t).Only P)
    (hgain : ∀ gap : Int, 0 < gap → P (.store (.incrScore set user gap)))
    (lastSeen : Option Instant) : (s.judge user set accrued t lastSeen).Only P := by
  unfold judge
  cases lastSeen with
  | none => exact Only.bind hclose fun _ => only_pure _
  | some last =>
      dsimp only
      split
      · exact Only.bind hclose fun _ => only_pure _
      · split
        · rename_i hpos
          exact Only.bind (only_ask (hgain _ hpos)) fun _ => only_pure _
        · exact only_pure _

theorem only_judge (user : String) (b accrued : Int) (t : Instant) (lastSeen : Option Instant) :
    (s.judge user (s.keys.accrualSet b) accrued t lastSeen).Only (s.UserCall user) :=
  only_judge_of (only_closeSession user b accrued t) (fun _ => .gain b) lastSeen

theorem only_onHeartbeat (user : String) : (s.onHeartbeat user).Only (s.UserCall user) := by
  refine Only.bind (only_resolve user) fun b => Only.bind (only_ask .getMarker) fun text => ?_
  cases text with
  | some text => exact only_pure _
  | none =>
      refine Only.bind (only_ask (.getScore b)) fun accrued => ?_
      split
      · exact only_pure _
      · refine Only.bind (only_ask .now) fun t => ?_
        exact Only.bind (only_closeSession user b accrued t) fun _ => only_pure _

theorem only_onActivity (user : String) :
    (s.onActivity user).Only fun c => s.UserCall user c ∨ s.MarkCall user c := by
  refine Only.bind (only_ask (.inl .now)) fun t => ?_
  refine Only.bind ((only_resolve user).mono fun _ => .inl) fun b => ?_
  refine Only.bind (only_ask (.inl (.getScore b))) fun accrued => ?_
  refine Only.bind (only_ask (.inl .getMarker)) fun text => ?_
  refine Only.bind (only_ask (.inr (.mark _ _))) fun _ => ?_
  exact (only_judge user b accrued t _).mono fun _ => .inl

/-! ## Requests -/

/-- A request about a user makes calls of this user only. -/
theorem only_perform {r : Request} (h : r.user? = some user) :
    (s.perform r).Only (s.OwnCall user) := by
  cases r with
  | activity u =>
      obtain rfl := Option.some.inj h
      exact Only.bind ((only_onActivity u).mono fun _ h => h.elim .any .mark) fun _ => only_pure _
  | heartbeat u =>
      obtain rfl := Option.some.inj h
      exact Only.bind ((only_onHeartbeat u).mono fun _ => .any) fun _ => only_pure _
  | changeRange u range =>
      obtain rfl := Option.some.inj h
      exact Only.bind ((only_changeRange u range).mono fun _ h => h.elim .any .move) fun _ =>
        only_pure _
  | resolve u =>
      obtain rfl := Option.some.inj h
      exact Only.bind ((only_resolve u).mono fun _ => .any) fun _ => only_pure _
  | liveAccrual u =>
      obtain rfl := Option.some.inj h
      exact Only.bind ((only_liveAccrual u).mono fun _ => .any) fun _ => only_pure _
  | knownBuckets => cases h
  | scan job => cases h

/-- A request that is about no user only reads. -/
theorem reads_perform {r : Request} (h : r.user? = none) : Reads (s.perform r) := by
  cases r with
  | knownBuckets => exact Only.bind s.reads_knownBuckets fun _ => only_pure _
  | scan job => exact Only.bind (s.reads_scan job) fun _ => only_pure _
  | activity u => cases h
  | heartbeat u => cases h
  | changeRange u range => cases h
  | resolve u => cases h
  | liveAccrual u => cases h

end Service

end Presence
