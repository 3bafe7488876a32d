import Presence.Proofs.ConcurrentClosing
import Presence.Proofs.Conservation
import Presence.Proofs.Handover

/-!
# The calls of a change of the alert range and of an event

How far a change of the alert range and an event of the same user have come is told by the calls
that each of them has made (`Exchange.carrier`, `Exchange.stage`). Main statements: every call moves
the seconds of the user as `Sound` says (`CarrierCall.sound`, `StageCall.sound`), and the two
operations make such calls only, whatever the other one does meanwhile (`meets_changeRange`,
`meets_onActivity`, `meets_onHeartbeat`).
-/

set_option autoImplicit false

namespace Presence

open Operation Program

/-! ## The seconds of a user in memory -/

namespace Memory

/-- What is kept of the seconds of a user. -/
def purse (s : Service) (user : String) (m : Memory) : Purse where
  range := s.rangeText? m user
  score b := m.store.getScore (s.keys.accrualSet b) user
  credit := m.credit s.keys user

variable (s : Service) (user : String) (m : Memory)

theorem purse_putScore (b v : Int) :
    (m.putScore (s.keys.accrualSet b) user v).purse s user = (m.purse s user).put b v := by
  have hs : (fun b' => (m.store.setScore (s.keys.accrualSet b) user v).getScore
      (s.keys.accrualSet b') user) = ((m.purse s user).put b v).score := by
    funext b'
    rw [Store.getScore_setScore, Purse.score_put]
    simp only [Keys.accrualSet_inj, and_true]
    rfl
  have hc := (Booked.putScore s.keys user m b v).credit user
  rw [if_pos rfl] at hc
  unfold purse putScore at *
  rw [hc, hs]
  rfl

theorem purse_dropMember (b : Int) :
    (m.dropMember (s.keys.accrualSet b) user).purse s user = (m.purse s user).put b 0 := by
  have hs : (fun b' => (m.store.removeMember (s.keys.accrualSet b) user).getScore
      (s.keys.accrualSet b') user) = ((m.purse s user).put b 0).score := by
    funext b'
    rw [Store.getScore_removeMember, Purse.score_put]
    simp only [Keys.accrualSet_inj, and_true]
    rfl
  have hc := (Booked.dropMember s.keys user m b).credit user
  have ht := s.rangeText?_dropMember m (s.keys.accrualSet b) user user
  rw [if_pos rfl, ← Int.zero_sub] at hc
  unfold purse
  rw [hc, ht]
  exact congrArg (fun f => (⟨_, f, _⟩ : Purse)) hs

theorem purse_addSpent {day : String} {n : Int}
    (h : Signed64.Fits (m.ledger.spentOn user day + n)) :
    ({ m with ledger := (m.ledger.add user day n).2 } : Memory).purse s user =
      { m.purse s user with credit := (m.purse s user).credit + n } := by
  have hs := Ledger.spent_add h user
  rw [if_pos rfl] at hs
  have hc : ({ m with ledger := (m.ledger.add user day n).2 } : Memory).credit s.keys user =
      m.credit s.keys user + n := by
    show m.store.accrued s.keys user + (m.ledger.add user day n).2.spent user =
      m.store.accrued s.keys user + m.ledger.spent user + n
    omega
  unfold purse
  rw [hc]
  rfl

theorem purse_putRange (text : String) :
    (m.putString (s.keys.alertRange user) text none).purse s user =
      { m.purse s user with range := some ⟨text, none⟩ } := by
  have ht := s.rangeText?_putString_alertRange m user user text
  rw [if_pos rfl] at ht
  unfold purse
  rw [ht]
  rfl

theorem purse_putMarker (text : String) (expires : Option Instant) :
    (m.putString (s.keys.sessionMarker user) text expires).purse s user = m.purse s user := by
  have ht := s.rangeText?_putString_sessionMarker m user user text expires
  unfold purse
  rw [ht]
  rfl

theorem purse_list (b : Int) :
    (m.putScore s.keys.bucketIndex (toString b) b).purse s user = m.purse s user := by
  have hs : (fun b' => (m.store.setScore s.keys.bucketIndex (toString b) b).getScore
      (s.keys.accrualSet b') user) = (m.purse s user).score := by
    funext b'
    rw [Store.getScore_setScore, if_neg fun e => Keys.bucketIndex_ne_accrualSet b' e.1.symm]
    rfl
  have hc : (m.putScore s.keys.bucketIndex (toString b) b).credit s.keys user =
      m.credit s.keys user :=
    congrArg (fun n => n + m.ledger.spent user)
      (Store.accrued_setScore_of_bucket?_eq_none _ Keys.bucket?_bucketIndex _ _ _)
  unfold purse
  rw [hc]
  exact congrArg (fun f => (⟨_, f, _⟩ : Purse)) hs

end Memory

/-! ## How far the two have come -/

section Progress

variable (s : Service) (set user : String)

/-- How far a change has come after a call. -/
def Carrier.next (A : Carrier) (x : Exchange) : Carrier :=
  match A, x.call with
  | .waiting, _ => if x.isRead set user then .seen (x.score set user) else .waiting
  | .seen n, .store (.removeMember _ _) => .lifted n
  | .lifted n, .store (.incrScore _ _ _) => if x.reply.isOk then .dropped else .lifted n
  | .dropped, .store (.setString _ _ _) => .named
  | A, _ => A

/-- How far an event has come after a call. -/
def Stage.next (B : Stage) (x : Exchange) : Stage :=
  match B, x.call with
  | .fresh, .store (.getString key) =>
    if key = s.keys.alertRange user then .bound (s.rangeIn user x.before) else .fresh
  | .bound b, .store (.getScore _ _) => .holding b (x.score (s.keys.accrualSet b) user)
  | .holding _ n, .store (.setScore _ _ _) => if 0 < n then .owing n else .settled 0
  | .holding b n, .store (.incrScore _ _ gap) => if x.reply.isOk then .settled gap else .holding b n
  | .owing n, .ledger _ => if x.reply.isOk then .settled 0 else .owing n
  | B, _ => B

/-- How far a change of the alert range has come that has made these calls, the latest first. The
accrued time is moved out of the given set. -/
def carrierOf : List Exchange → Carrier
  | [] => .waiting
  | x :: xs => (carrierOf xs).next set user x

/-- How far an event has come that has made these calls, the latest first. -/
def stageOf : List Exchange → Stage
  | [] => .fresh
  | x :: xs => (stageOf xs).next s user x

/-- The call of an event writes to a bucket what must not be written there once a change has read
the score: a gap, or the reset of a score that is owed to the day. -/
def Stage.harms (c : Int) (B : Stage) (x : Exchange) : Bool :=
  match B, x.call with
  | .holding b n, .store (.setScore _ _ _) => decide (b = c) && decide (0 < n)
  | .holding b _, .store (.incrScore _ _ _) => decide (b = c) && x.reply.isOk
  | _, _ => false

/-- A call that reads the clock or the session marker. -/
def Exchange.isTimed (x : Exchange) : Bool :=
  match x.call with
  | .now => true
  | .store (.getString key) => decide (key = s.keys.sessionMarker user)
  | _ => false

/-- A call that renews the session marker. -/
def Call.isMark : Call → Bool
  | .store (.setString key _ _) => decide (key = s.keys.sessionMarker user)
  | _ => false

/-- The times at which a program has read the clock or the session marker, the latest first. -/
def readings (xs : List Exchange) : List Instant :=
  (xs.filter fun x => x.isTimed s user).map fun x => x.before.clock.now

/-- A program has renewed the session marker. -/
def hasMarked (xs : List Exchange) : Bool := xs.any fun x => x.call.isMark s user

end Progress

namespace Service

variable {s : Service} {user : String} {c r start : Int}

/-- The next calls of a change from the range `c` to the range `r`. -/
inductive CarrierCall (s : Service) (user : String) (c r : Int) : Carrier → Call → Prop
  | ask : CarrierCall s user c r .waiting (.store (.getString (s.keys.alertRange user)))
  | read (h : c ≠ r) :
      CarrierCall s user c r .waiting (.store (.getScore (s.keys.accrualSet c) user))
  | lift (n : Int) :
      CarrierCall s user c r (.seen n) (.store (.removeMember (s.keys.accrualSet c) user))
  | drop (n : Int) :
      CarrierCall s user c r (.lifted n) (.store (.incrScore (s.keys.accrualSet r) user n))
  | name : CarrierCall s user c r .dropped
      (.store (.setString (s.keys.alertRange user) (toString r) none))
  | keep (h : c = r) : CarrierCall s user c r .waiting
      (.store (.setString (s.keys.alertRange user) (toString r) none))
  | list (A : Carrier) :
      CarrierCall s user c r A (.store (.setScore s.keys.bucketIndex (toString r) r))

/-- The calls of an event that have nothing to do with the accrued seconds. -/
inductive AsideCall (s : Service) (user : String) : Call → Prop
  | now : AsideCall s user .now
  | count (k : Counter) (n : Nat) : AsideCall s user (.count k n)
  | getMarker : AsideCall s user (.store (.getString (s.keys.sessionMarker user)))
  | mark (text : String) (ttl : Nat) :
      AsideCall s user (.store (.setString (s.keys.sessionMarker user) text (some ttl)))

/-- The next calls of an event. -/
inductive StageCall (s : Service) (user : String) : Stage → Call → Prop
  | aside (B : Stage) {call : Call} (h : s.AsideCall user call) : StageCall s user B call
  | ask : StageCall s user .fresh (.store (.getString (s.keys.alertRange user)))
  | hold (b : Int) : StageCall s user (.bound b) (.store (.getScore (s.keys.accrualSet b) user))
  | reset (b n : Int) :
      StageCall s user (.holding b n) (.store (.setScore (s.keys.accrualSet b) user 0))
  | gain (b n : Int) {gap : Int} (h : 0 < gap) :
      StageCall s user (.holding b n) (.store (.incrScore (s.keys.accrualSet b) user gap))
  | spend (n : Int) (day : String) : StageCall s user (.owing n) (.ledger (.add user day n))

variable {m : Memory} {A : Carrier} {B : Stage} {late : Bool} {call : Call}

open Memory

/-- A call of the change moves the seconds of the user on. -/
theorem CarrierCall.sound (hc : s.CarrierCall user c r A call)
    (h : Sound c r start (m.purse s user) A B late) :
    Sound c r start ((serve call m).2.purse s user)
      (A.next (s.keys.accrualSet c) user ⟨call, m, none⟩) B late := by
  cases hc with
  | ask => exact h
  | read hne =>
      have hread : Exchange.isRead (s.keys.accrualSet c) user
          ⟨.store (.getScore (s.keys.accrualSet c) user), m, none⟩ = true := by
        simp [Exchange.isRead]
      unfold Carrier.next
      dsimp only
      rw [if_pos hread]
      exact h.read hne
  | lift n =>
      show Sound c r start ((m.dropMember (s.keys.accrualSet c) user).purse s user) _ B late
      rw [purse_dropMember]
      exact h.lift
  | drop n =>
      rcases m.serve_incrScore (s.keys.accrualSet r) user n with hr | hr
      · have ho : (⟨.store (.incrScore (s.keys.accrualSet r) user n), m, none⟩ :
            Exchange).reply.isOk = true := by
          rw [Exchange.reply_of_none, hr]
          rfl
        unfold Carrier.next
        dsimp only
        rw [hr, if_pos ho, purse_putScore]
        exact h.drop
      · -- the sum is out of range, and nothing is written
        have ho : (⟨.store (.incrScore (s.keys.accrualSet r) user n), m, none⟩ :
            Exchange).reply.isOk = false := by
          rw [Exchange.reply_of_none, hr]
          rfl
        unfold Carrier.next
        dsimp only
        rw [hr, ho]
        exact h
  | name =>
      show Sound c r start
        ((m.putString (s.keys.alertRange user) (toString r) none).purse s user) _ B late
      rw [purse_putRange]
      exact h.name
  | keep he =>
      show Sound c r start
        ((m.putString (s.keys.alertRange user) (toString r) none).purse s user) _ B late
      rw [purse_putRange]
      exact h.keep he
  | list A =>
      have hA : A.next (s.keys.accrualSet c) user
          ⟨.store (.setScore s.keys.bucketIndex (toString r) r), m, none⟩ = A := by
        cases A <;> rfl
      show Sound c r start
        ((m.putScore s.keys.bucketIndex (toString r) r).purse s user) _ B late
      rw [purse_list, hA]
      exact h

/-- The bucket of the user, whoever asks for it. -/
theorem rangeIn_of_sound (hpos : 0 < c ∧ 0 < r) (hfit : Signed64.Fits c ∧ Signed64.Fits r)
    (h : Sound c r start (m.purse s user) A B late) :
    s.rangeIn user m = if A = .named then r else c := by
  have hc : s.cached? user m = some (if A = .named then r else c) := by
    refine cached?_of_rangeText? h.range ?_ ?_
    · split
      · exact hpos.2
      · exact hpos.1
    · split
      · exact hfit.2
      · exact hfit.1
  unfold rangeIn
  rw [hc, Option.getD_some]

namespace AsideCall

variable (hc : s.AsideCall user call)

include hc

/-- The event has come no further. -/
theorem next (B : Stage) (m : Memory) : B.next s user ⟨call, m, none⟩ = B := by
  cases hc with
  | getMarker =>
      cases B with
      | fresh => exact if_neg (Keys.sessionMarker_ne_alertRange user user)
      | _ => rfl
  | _ => cases B <;> rfl

theorem harms (B : Stage) (c : Int) (m : Memory) : B.harms c ⟨call, m, none⟩ = false := by
  cases hc <;> cases B <;> rfl

/-- No seconds are moved. -/
theorem purse (m : Memory) : (serve call m).2.purse s user = m.purse s user := by
  cases hc with
  | mark text ttl =>
      rcases m.serve_setString (s.keys.sessionMarker user) text ttl with ⟨x, hr⟩ | ⟨e, hr⟩
      · rw [hr]
        exact m.purse_putMarker s user text (some x)
      · rw [hr]
  | _ => rfl

end AsideCall

/-- An event that asks for the alert range is bound to it. -/
theorem next_ask (s : Service) (user : String) (m : Memory) :
    Stage.fresh.next s user ⟨.store (.getString (s.keys.alertRange user)), m, none⟩ =
      .bound (s.rangeIn user m) := if_pos rfl

/-- After a call an event has come no further, or it has written to its bucket, or it knows its
bucket or what stands there. -/
theorem StageCall.next_cases (hc : s.StageCall user B call) (m : Memory) :
    (B.next s user ⟨call, m, none⟩ = B ∧
        ∀ set, Exchange.isRead set user ⟨call, m, none⟩ = false) ∨
      (B.next s user ⟨call, m, none⟩).hasWritten = true ∨
      B.next s user ⟨call, m, none⟩ = .bound (s.rangeIn user m) ∨
      ∃ b, B = .bound b ∧ call = .store (.getScore (s.keys.accrualSet b) user) ∧
        B.next s user ⟨call, m, none⟩ =
          .holding b (m.store.getScore (s.keys.accrualSet b) user) := by
  cases hc with
  | aside B hc => exact .inl ⟨hc.next B m, fun set => by cases hc <;> rfl⟩
  | ask => exact .inr (.inr (.inl (next_ask s user m)))
  | hold b => exact .inr (.inr (.inr ⟨b, rfl, rfl, rfl⟩))
  | reset b n =>
      refine .inr (.inl ?_)
      unfold Stage.next
      dsimp only
      split <;> rfl
  | gain b n hg =>
      unfold Stage.next
      dsimp only
      split
      · exact .inr (.inl rfl)
      · exact .inl ⟨rfl, fun _ => rfl⟩
  | spend n day =>
      unfold Stage.next
      dsimp only
      split
      · exact .inr (.inl rfl)
      · exact .inl ⟨rfl, fun _ => rfl⟩

/-- A call of the event moves the seconds of the user on, and is late if it writes to the old bucket
what the change has read there. -/
theorem StageCall.sound (hpos : 0 < c ∧ 0 < r) (hfit : Signed64.Fits c ∧ Signed64.Fits r)
    (hc : s.StageCall user B call) (h : Sound c r start (m.purse s user) A B late) :
    Sound c r start ((serve call m).2.purse s user) A (B.next s user ⟨call, m, none⟩)
      (late || (decide (A ≠ .waiting) && B.harms c ⟨call, m, none⟩)) := by
  -- most calls do no harm
  have hquiet {p : Purse} {B' : Stage} (hb : B.harms c ⟨call, m, none⟩ = false)
      (hs : Sound c r start p A B' late) : Sound c r start p A B'
        (late || (decide (A ≠ .waiting) && B.harms c ⟨call, m, none⟩)) := by
    rw [hb, Bool.and_false, Bool.or_false]
    exact hs
  cases hc with
  | aside B hc =>
      refine hquiet (hc.harms B c m) ?_
      rw [hc.next B m, hc.purse m]
      exact h
  | ask =>
      refine hquiet rfl ?_
      rw [next_ask, rangeIn_of_sound hpos hfit h]
      exact h.ask
  | hold b => exact hquiet rfl h.hold
  | reset b n =>
      rw [h.late_eq_false_of_hasWritten rfl, Bool.false_or]
      show Sound c r start ((m.putScore (s.keys.accrualSet b) user 0).purse s user) A _ _
      rw [purse_putScore]
      exact h.reset
  | gain b n hg =>
      rename_i gap
      rw [h.late_eq_false_of_hasWritten rfl, Bool.false_or]
      unfold Stage.next Stage.harms
      dsimp only
      rw [Exchange.reply_of_none]
      rcases m.serve_incrScore (s.keys.accrualSet b) user gap with hr | hr
      · rw [hr, purse_putScore]
        show Sound c r start _ A (.settled gap) (decide (A ≠ .waiting) && (decide (b = c) && true))
        rw [Bool.and_true]
        exact h.gain hg
      · -- the sum is out of range, and nothing is written
        rw [hr]
        show Sound c r start _ A (.holding b n) (decide (A ≠ .waiting) && (decide (b = c) && false))
        rw [Bool.and_false, Bool.and_false, ← h.late_eq_false_of_hasWritten rfl]
        exact h
  | spend n day =>
      refine hquiet rfl ?_
      unfold Stage.next
      dsimp only
      rw [Exchange.reply_of_none]
      by_cases hf : Signed64.Fits (m.ledger.spentOn user day + n)
      · have hr : serve (.ledger (.add user day n)) m = _ := m.run_addSpent_of_fits hf
        rw [hr]
        show Sound c r start (purse s user { m with ledger := (m.ledger.add user day n).2 }) A
          (.settled 0) late
        rw [purse_addSpent s user m hf]
        exact h.spend
      · have hr : serve (.ledger (.add user day n)) m = _ := m.run_addSpent_of_not_fits hf
        rw [hr]
        exact h

/-! ## The change by itself -/

/-- The contract of a change while an event of the user goes on: until the change stores the new
range it finds the old one. -/
def carrying (s : Service) (user : String) (c r : Int) : Contract Call.Reply (List Exchange) where
  allows call xs := s.CarrierCall user c r (carrierOf (s.keys.accrualSet c) user xs) call
  answers call xs reply ys := ∃ m : Memory,
    (carrierOf (s.keys.accrualSet c) user xs = .waiting →
      s.rangeText? m user = some ⟨toString c, none⟩) ∧
    reply = (serve call m).1 ∧ ys = ⟨call, m, none⟩ :: xs

/-- A call of the change: what is known of it, and how far the change has come then. -/
theorem meets_carrier {xs : List Exchange} {F : call.Reply → List Exchange → Prop}
    (hA : carrierOf (s.keys.accrualSet c) user xs = A) (hc : s.CarrierCall user c r A call)
    (hF : ∀ (m : Memory) (a : call.Reply) (ys : List Exchange),
      (A = .waiting → s.rangeText? m user = some ⟨toString c, none⟩) →
      (serve call m).1 = .ok a →
      carrierOf (s.keys.accrualSet c) user ys =
        A.next (s.keys.accrualSet c) user ⟨call, m, none⟩ → F a ys) :
    Meets (s.carrying user c r) (of call) F xs := by
  subst hA
  refine meets_ask hc ?_
  rintro a ys ⟨m, hm, ha, rfl⟩
  exact hF m a _ hm ha.symm rfl

/-- The new range is stored and listed. -/
theorem meets_enlist {A' : Carrier} {xs : List Exchange}
    (hA : carrierOf (s.keys.accrualSet c) user xs = A)
    (hc : s.CarrierCall user c r A
      (.store (.setString (s.keys.alertRange user) (toString r) none)))
    (hn : ∀ m, A.next (s.keys.accrualSet c) user
      ⟨.store (.setString (s.keys.alertRange user) (toString r) none), m, none⟩ = A') :
    Meets (s.carrying user c r) (do
      setString (s.keys.alertRange user) (toString r) none
      s.registerBucket r)
      (fun _ xs => carrierOf (s.keys.accrualSet c) user xs = A') xs := by
  refine Meets.bind (F := fun _ ys => carrierOf (s.keys.accrualSet c) user ys = A')
    (meets_carrier hA hc fun m a ys _ _ hy => hy.trans (hn m)) fun _ ys hy => ?_
  refine meets_carrier hy (.list A') fun m a zs _ _ hz => hz.trans ?_
  cases A' <;> rfl

/-- The accrued time is read, taken out and added to the new bucket. -/
theorem meets_moveAccrual (hne : c ≠ r) {xs : List Exchange}
    (hA : carrierOf (s.keys.accrualSet c) user xs = .waiting) :
    Meets (s.carrying user c r) (s.moveAccrual user c r)
      (fun _ ys => carrierOf (s.keys.accrualSet c) user ys = .dropped) xs := by
  refine Meets.bind (F := fun n ys => carrierOf (s.keys.accrualSet c) user ys = .seen n)
    (meets_carrier hA (.read hne) ?_) fun n ys hn => ?_
  · rintro m n ys - ⟨⟩ hy
    rw [hy]
    exact if_pos (by simp [Exchange.isRead])
  · refine Meets.bind (F := fun _ ys => carrierOf (s.keys.accrualSet c) user ys = .lifted n)
      (meets_carrier hn (.lift n) fun m a zs _ _ hz => hz) fun _ zs hz => ?_
    refine Meets.bind (F := fun _ ys => carrierOf (s.keys.accrualSet c) user ys = .dropped)
      (meets_carrier hz (.drop n) fun m a ws _ ha hw => hw.trans (if_pos ?_)) fun _ ws hw => ?_
    · rw [Exchange.reply_of_none, ha]
      rfl
    · exact meets_pure hw

/-- A change of the alert range makes the calls of a change, and has named the new range in the
end, unless it is the old one. -/
theorem meets_changeRange (hpos : 0 < c ∧ 0 < r) (hfit : Signed64.Fits c) :
    Meets (s.carrying user c r) (s.changeRange user r) (fun _ xs =>
      carrierOf (s.keys.accrualSet c) user xs = .named ∨
        c = r ∧ carrierOf (s.keys.accrualSet c) user xs = .waiting) [] := by
  have hresolve : Meets (s.carrying user c r) (s.resolve user) (fun b ys =>
      b = c ∧ carrierOf (s.keys.accrualSet c) user ys = .waiting) [] := by
    refine Meets.bind (F := fun text ys => cachedRange? text = some c ∧
      carrierOf (s.keys.accrualSet c) user ys = .waiting) (meets_carrier rfl .ask ?_) ?_
    · rintro m text ys ht ⟨⟩ hy
      exact ⟨cached?_of_rangeText? (ht rfl) hpos.1 hfit, hy⟩
    · rintro text ys ⟨ht, hy⟩
      rw [ht]
      exact meets_pure ⟨rfl, hy⟩
  unfold changeRange
  rw [if_neg (by omega)]
  refine hresolve.bind fun b xs hb => ?_
  obtain ⟨rfl, hx⟩ := hb
  dsimp only
  split
  · -- nothing is moved
    rename_i he
    refine Keeps.mono (fun o t ho a ha => .inr ⟨he, ho a ha⟩) (meets_enlist hx (.keep he) ?_)
    intro m
    rfl
  · rename_i hne
    refine (meets_moveAccrual hne hx).bind fun _ ys hy => ?_
    exact Keeps.mono (fun o t ho a ha => .inl (ho a ha)) (meets_enlist hy .name fun m => rfl)

/-! ## The event by itself -/

/-- The seconds that an activity gains that has read the clock at a time, and has found the marker
of an instant. -/
def gapOf (s : Service) (time : Instant) : Option Instant → Int
  | none => 0
  | some last =>
    if s.session.gapSeconds ≤ time.secondsSince last then 0 else max 0 (time.secondsSince last)

/-- The text of a marker, unless it has expired. -/
def markerAt (marker : Option StoredText) (time : Instant) : Option String :=
  (marker.filter fun e => Store.StoredText.isAlive e time).map (·.value)

/-- The seconds that an event gains, by the marker and the times at which it has read the marker and
before that the clock. -/
def due (s : Service) (marker : Option StoredText) : Request → List Instant → Int
  | .activity _, [seen, time] => s.gapOf time ((markerAt marker seen).bind marker?)
  | _, _ => 0

/-- The contract of an event while a change of the alert range goes on: it finds an alert range, and
until it renews the marker it finds the one from before. -/
def attending (s : Service) (user : String) (marker : Option StoredText) :
    Contract Call.Reply (List Exchange) where
  allows call xs := s.StageCall user (stageOf s user xs) call
  answers call xs reply ys := ∃ m : Memory,
    (∃ b, s.rangeText? m user = some ⟨toString b, none⟩ ∧ 0 < b ∧ Signed64.Fits b) ∧
    (hasMarked s user xs = false → s.marker m user = marker) ∧
    reply = (serve call m).1 ∧ ys = ⟨call, m, none⟩ :: xs

/-- How far an event has come, whether it has renewed the marker, and when it has read the clock and
the marker. -/
structure Attends (s : Service) (user : String) (B : Stage) (marked : Bool) (ts : List Instant)
    (xs : List Exchange) : Prop where
  stage : stageOf s user xs = B
  marked : hasMarked s user xs = marked
  readings : readings s user xs = ts

section Event

variable {marker : Option StoredText} {marked : Bool} {ts : List Instant} {xs : List Exchange}

theorem attends_nil (s : Service) (user : String) : s.Attends user .fresh false [] [] :=
  ⟨rfl, rfl, rfl⟩

theorem Attends.cons (h : s.Attends user B marked ts xs) (x : Exchange) :
    s.Attends user (B.next s user x) (x.call.isMark s user || marked)
      (if x.isTimed s user then x.before.clock.now :: ts else ts) (x :: xs) := by
  obtain ⟨rfl, rfl, rfl⟩ := h
  refine ⟨rfl, rfl, ?_⟩
  unfold Presence.readings
  cases hx : x.isTimed s user with
  | false =>
      rw [List.filter_cons_of_neg (by rw [hx]; exact Bool.false_ne_true)]
      rfl
  | true =>
      rw [List.filter_cons_of_pos hx]
      rfl

/-- A call of the event: what is known of it, and how far the event has come then. -/
theorem meets_stage {F : call.Reply → List Exchange → Prop} (h : s.Attends user B marked ts xs)
    (hc : s.StageCall user B call)
    (hF : ∀ (m : Memory) (a : call.Reply),
      (∃ b, s.rangeText? m user = some ⟨toString b, none⟩ ∧ 0 < b ∧ Signed64.Fits b) →
      (marked = false → s.marker m user = marker) → (serve call m).1 = .ok a →
      s.Attends user (B.next s user ⟨call, m, none⟩)
        (call.isMark s user || marked)
        (if Exchange.isTimed s user ⟨call, m, none⟩ then m.clock.now :: ts else ts)
        (⟨call, m, none⟩ :: xs) → F a (⟨call, m, none⟩ :: xs)) :
    Meets (s.attending user marker) (of call) F xs := by
  have hc' : s.StageCall user (stageOf s user xs) call := h.stage ▸ hc
  refine meets_ask hc' ?_
  rintro a ys ⟨m, hm, hmark, ha, rfl⟩
  exact hF m a hm (fun e => hmark (h.marked.trans e)) ha.symm (h.cons _)

/-- A call that reads the clock. -/
theorem meets_now (h : s.Attends user B marked ts xs) :
    Meets (s.attending user marker) now (fun t ys => s.Attends user B marked (t :: ts) ys) xs := by
  refine meets_stage h (.aside B .now) ?_
  rintro m t - - ⟨⟩ hy
  rw [AsideCall.now.next B m] at hy
  exact hy

theorem meets_count (h : s.Attends user B marked ts xs) (k : Counter) (n : Nat) :
    Meets (s.attending user marker) (count k n) (fun _ ys => s.Attends user B marked ts ys) xs := by
  refine meets_stage h (.aside B (.count k n)) ?_
  rintro m t - - - hy
  rw [(AsideCall.count k n).next B m] at hy
  exact hy

/-- The event asks for the alert range. -/
theorem meets_resolve (h : s.Attends user .fresh marked ts xs) :
    Meets (s.attending user marker) (s.resolve user)
      (fun b ys => s.Attends user (.bound b) marked ts ys) xs := by
  refine Meets.bind (F := fun text ys => ∃ b, cachedRange? text = some b ∧
    s.Attends user (.bound b) marked ts ys) (meets_stage h .ask ?_) ?_
  · rintro m text ⟨b, hb, h0, hf⟩ - ⟨⟩ hy
    have hc := cached?_of_rangeText? hb h0 hf
    have hB : s.rangeIn user m = b := by
      unfold rangeIn
      rw [hc, Option.getD_some]
    rw [next_ask, hB] at hy
    have ht : Exchange.isTimed s user ⟨.store (.getString (s.keys.alertRange user)), m, none⟩ =
        false := decide_eq_false (Keys.sessionMarker_ne_alertRange user user).symm
    rw [ht] at hy
    exact ⟨b, hc, hy⟩
  · rintro text ys ⟨b, ht, hy⟩
    rw [ht]
    exact meets_pure hy

theorem meets_getScore {b : Int} (h : s.Attends user (.bound b) marked ts xs) :
    Meets (s.attending user marker) (getScore (s.keys.accrualSet b) user)
      (fun n ys => s.Attends user (.holding b n) marked ts ys) xs := by
  refine meets_stage h (.hold b) ?_
  rintro m n - - ⟨⟩ hy
  exact hy

/-- The event reads the session marker, before it renews it. -/
theorem meets_getMarker (h : s.Attends user B false ts xs) :
    Meets (s.attending user marker) (getString (s.keys.sessionMarker user))
      (fun text ys => ∃ t, text = markerAt marker t ∧ s.Attends user B false (t :: ts) ys) xs := by
  refine meets_stage h (.aside B .getMarker) ?_
  rintro m text - hm ⟨⟩ hy
  have ht : Exchange.isTimed s user ⟨.store (.getString (s.keys.sessionMarker user)), m, none⟩ =
      true := decide_eq_true rfl
  rw [AsideCall.getMarker.next B m, ht, if_pos rfl] at hy
  exact ⟨m.clock.now, by rw [← hm rfl]; rfl, hy⟩

/-- The event renews the session marker. -/
theorem meets_mark (h : s.Attends user B marked ts xs) (text : String) (ttl : Nat) :
    Meets (s.attending user marker) (setString (s.keys.sessionMarker user) text (some ttl))
      (fun _ ys => s.Attends user B true ts ys) xs := by
  refine meets_stage h (.aside B (.mark text ttl)) ?_
  rintro m a - - - hy
  have hm : Call.isMark s user
      (.store (.setString (s.keys.sessionMarker user) text (some ttl))) = true := decide_eq_true rfl
  rw [(AsideCall.mark text ttl).next B m, hm, Bool.true_or] at hy
  exact hy

/-- The event closes the session with what it has read. -/
theorem meets_closeSession {b n : Int} {t : Instant}
    (h : s.Attends user (.holding b n) marked ts xs) :
    Meets (s.attending user marker) (s.closeSession user (s.keys.accrualSet b) n t)
      (fun _ ys => s.Attends user (.settled 0) marked ts ys) xs := by
  refine Meets.bind (F := fun _ ys =>
    s.Attends user (if 0 < n then .owing n else .settled 0) marked ts ys)
    (meets_stage h (.reset b n) fun m a _ _ _ hy => hy) fun _ ys hy => ?_
  split
  · rename_i hn
    rw [if_neg (by omega)] at hy
    exact meets_pure hy
  · -- what the event has read is added to the day
    rename_i hn
    rw [if_pos (by omega)] at hy
    refine Meets.bind (F := fun _ zs => s.Attends user (.settled 0) marked ts zs) ?_
      fun _ zs hz => meets_pure hz
    refine Meets.bind (F := fun _ zs => s.Attends user (.settled 0) marked ts zs)
      (meets_stage hy (.spend n _) ?_) fun _ zs hz => ?_
    · rintro m a - - ha hz
      have hB : (Stage.owing n).next s user
          ⟨.ledger (.add user (s.session.zone.dayKey t) n), m, none⟩ = .settled 0 := by
        refine if_pos ?_
        rw [Exchange.reply_of_none, ha]
        rfl
      rw [hB] at hz
      exact hz
    · exact (meets_count hz _ _).bind fun _ ws hw => meets_count hw _ _

/-- What an event tells is what its calls have done. -/
structure Tells (s : Service) (user : String) (marker : Option StoredText) (r : Request)
    (a : Accrual) (xs : List Exchange) : Prop where
  owed : (stageOf s user xs).owed = 0
  gained : (stageOf s user xs).gained = a.gained
  due : a.gained = s.due marker r (readings s user xs)
  /-- An activity reads the clock, and later on the marker. -/
  timely : r = .activity user → (readings s user xs).length = 2

/-- An activity that has renewed the marker gains what is due to it, or closes the session. -/
theorem meets_judge {b n : Int} {time : Instant} {lastSeen : Option Instant}
    (h : s.Attends user (.holding b n) marked ts xs) :
    Meets (s.attending user marker) (s.judge user (s.keys.accrualSet b) n time lastSeen)
      (fun a ys => ∃ B, s.Attends user B marked ts ys ∧ B.owed = 0 ∧ B.gained = a.gained ∧
        a.gained = s.gapOf time lastSeen) xs := by
  have hclose : Meets (s.attending user marker)
      (s.closeSession user (s.keys.accrualSet b) n time)
      (fun _ ys => s.Attends user (.settled 0) marked ts ys) xs := meets_closeSession h
  cases lastSeen with
  | none => exact hclose.bind fun k ys hy => meets_pure ⟨_, hy, rfl, rfl, rfl⟩
  | some last =>
      unfold judge gapOf
      dsimp only
      split
      · exact hclose.bind fun k ys hy => meets_pure ⟨_, hy, rfl, rfl, rfl⟩
      · split
        · rename_i hgap
          refine Meets.bind (F := fun _ ys =>
            s.Attends user (.settled (time.secondsSince last)) marked ts ys)
            (meets_stage h (.gain b n hgap) ?_) fun _ ys hy =>
              meets_pure ⟨_, hy, rfl, rfl, (Int.max_eq_right (Int.le_of_lt hgap)).symm⟩
          rintro m a - - ha hy
          have hB : (Stage.holding b n).next s user
              ⟨.store (.incrScore (s.keys.accrualSet b) user (time.secondsSince last)), m, none⟩ =
                .settled (time.secondsSince last) := by
            refine if_pos ?_
            rw [Exchange.reply_of_none, ha]
            rfl
          rw [hB] at hy
          exact hy
        · rename_i hgap
          exact meets_pure ⟨_, h, rfl, rfl, (Int.max_eq_left (Int.not_lt.1 hgap)).symm⟩

/-- An activity makes the calls of an event, and tells what they have done. -/
theorem meets_onActivity (s : Service) (user : String) (marker : Option StoredText) :
    Meets (s.attending user marker) (s.onActivity user)
      (s.Tells user marker (.activity user)) [] := by
  refine (meets_now (attends_nil s user)).bind fun time _ h1 => ?_
  refine (meets_resolve h1).bind fun b _ h2 => ?_
  refine (meets_getScore h2).bind fun n _ h3 => ?_
  refine (meets_getMarker h3).bind fun text _ h4 => ?_
  obtain ⟨seen, rfl, h4⟩ := h4
  refine (meets_mark h4 _ _).bind fun _ _ h5 => ?_
  refine Keeps.mono (fun o ys ho a ha => ?_) (meets_judge h5)
  obtain ⟨B, hB, howed, hgained, hgap⟩ := ho a ha
  refine ⟨by rw [hB.stage, howed], by rw [hB.stage, hgained], ?_, fun _ => ?_⟩
  · rw [hB.readings]
    exact hgap
  · rw [hB.readings]
    rfl

/-- A heartbeat makes the calls of an event, and gains nothing. -/
theorem meets_onHeartbeat (s : Service) (user : String) (marker : Option StoredText) :
    Meets (s.attending user marker) (s.onHeartbeat user)
      (s.Tells user marker (.heartbeat user)) [] := by
  have hidle {B : Stage} {ts : List Instant} {ys : List Exchange}
      (hy : s.Attends user B false ts ys) (howed : B.owed = 0) (hgained : B.gained = 0) :
      s.Tells user marker (.heartbeat user) .unchanged ys :=
    ⟨by rw [hy.stage, howed], by rw [hy.stage, hgained]; rfl, rfl, nofun⟩
  refine (meets_resolve (attends_nil s user)).bind fun b _ h1 => ?_
  refine (meets_getMarker h1).bind fun text ys h2 => ?_
  obtain ⟨seen, rfl, h2⟩ := h2
  cases markerAt marker seen with
  | some text => exact meets_pure (hidle h2 rfl rfl)
  | none =>
      refine (meets_getScore h2).bind fun n zs h3 => ?_
      split
      · exact meets_pure (hidle h3 rfl rfl)
      · refine (meets_now h3).bind fun time _ h4 => ?_
        refine (meets_closeSession h4).bind fun _ _ h5 => ?_
        exact meets_pure ⟨by rw [h5.stage]; rfl, by rw [h5.stage]; rfl, rfl, nofun⟩

/-- A request for an event of a user tells what its calls have done. -/
theorem meets_perform {e : Request} (he : e = .activity user ∨ e = .heartbeat user) :
    Meets (s.attending user marker) (s.perform e)
      (fun report ys => ∃ a, report = .accrual a ∧ s.Tells user marker e a ys) [] := by
  rcases he with rfl | rfl
  · exact (meets_onActivity s user marker).bind fun a _ ha => meets_pure ⟨a, rfl, ha⟩
  · exact (meets_onHeartbeat s user marker).bind fun a _ ha => meets_pure ⟨a, rfl, ha⟩

end Event

end Service

end Presence
