import Presence.Proofs.HandoverCalls
import Presence.Proofs.UserCalls

/-!
# Users without an alert range

The session marker of a user is written after the alert range was stored, and what is stored stays.
So a user whose alert range is not stored has no marker (`Service.ranged_proceed`), and neither a
change of the alert range nor an event of a user without a marker and without scores moves any
seconds, whatever the other one does meanwhile (`Service.idles_changeRange`,
`Service.idles_onActivity`, `Service.idles_onHeartbeat`).
-/

set_option autoImplicit false

namespace Presence

open Operation Program

namespace Memory

/-- A call writes one text at most. -/
theorem strings_serve (c : Call) (m : Memory) :
    (serve c m).2.store.strings = m.store.strings ∨ ∃ key value ttl expires,
      c = .store (.setString key value ttl) ∧
        (serve c m).2.store.strings = m.store.strings.set key ⟨value, expires⟩ := by
  cases c with
  | store c =>
      cases c with
      | getString key => exact .inl rfl
      | setString key value ttl =>
          cases ttl with
          | none => exact .inr ⟨key, value, none, none, rfl, rfl⟩
          | some n =>
              rcases m.serve_setString key value n with ⟨x, h⟩ | ⟨e, h⟩
              · rw [h]
                exact .inr ⟨key, value, some n, some x, rfl, rfl⟩
              · rw [h]
                exact .inl rfl
      | getScore set member => exact .inl rfl
      | setScore set member value => exact .inl rfl
      | incrScore set member delta =>
          left
          rcases m.serve_incrScore set member delta with h | h
          · rw [h]
            rfl
          · rw [h]
      | rangeByScore set low high => exact .inl rfl
      | removeMember set member =>
          left
          show (m.store.removeMember set member).strings = m.store.strings
          unfold Store.removeMember
          cases m.store.sets.get? set <;> rfl
  | ledger c => exact .inl rfl
  | profile user => exact .inl rfl
  | notify n => exact .inl rfl
  | queue c => exact .inl rfl
  | now => exact .inl rfl
  | count c n => exact .inl rfl
  | enter job => exact .inl rfl
  | leave job => exact .inl rfl

end Memory

namespace Service

variable {s : Service} {user : String} {m : Memory} {α : Type}

/-! ## No marker without a range -/

/-- A call that does not renew the marker leaves it alone. -/
theorem marker_serve {c : Call} (h : c.isMark s user = false) (m : Memory) :
    s.marker (Memory.serve c m).2 user = s.marker m user := by
  unfold marker
  rcases Memory.strings_serve c m with hs | ⟨key, value, ttl, expires, rfl, hs⟩
  · rw [hs]
  · rw [hs, Table.get?_set_of_ne _ _ fun e => of_decide_eq_false h e.symm]

/-- No call removes the alert range. -/
theorem rangeText?_serve (h : s.rangeText? m user ≠ none) (c : Call) :
    s.rangeText? (Memory.serve c m).2 user ≠ none := by
  unfold rangeText? at h ⊢
  rcases Memory.strings_serve c m with hs | ⟨key, value, ttl, expires, -, hs⟩
  · rw [hs]
    exact h
  · rw [hs, Table.get?_set]
    split
    · exact Option.some_ne_none _
    · exact h

theorem rangeText?_run (p : Operation α) (h : s.rangeText? m user ≠ none) :
    s.rangeText? (m.run p).2 user ≠ none := by
  induction p generalizing m with
  | done o => exact h
  | call c next ih => exact ih _ (rangeText?_serve h c)

/-- After the alert range was asked for it is stored. -/
theorem rangeText?_resolved (user : String) (m : Memory) :
    s.rangeText? (s.resolved user m) user ≠ none := by
  unfold resolved
  cases hc : s.cached? user m with
  | some r =>
      intro hn
      rw [cached?_of_rangeText?_none hn] at hc
      cases hc
  | none =>
      rw [rangeText?_cacheRange, if_pos rfl]
      exact Option.some_ne_none _

/-- A user without a stored alert range has no session marker. -/
def Ranged (s : Service) (user : String) (m : Memory) : Prop :=
  s.rangeText? m user = none → s.marker m user = none

theorem Ranged.run {p : Operation α} (hp : p.Only fun c => c.isMark s user = false)
    (h : s.Ranged user m) : s.Ranged user (m.run p).2 := by
  induction p generalizing m with
  | done o => exact h
  | call c next ih =>
      refine ih _ (hp.2 _) fun hn => ?_
      rw [marker_serve hp.1]
      by_contra hm
      exact rangeText?_serve (fun e => hm (h e)) c hn

theorem UserCall.isMark {v : String} {c : Call} (h : s.UserCall v c) : c.isMark s user = false := by
  cases h with
  | setRange range => exact decide_eq_false (Keys.sessionMarker_ne_alertRange user v).symm
  | _ => rfl

theorem isMark_of_isReading {c : Call} (h : c.isReading = true) : c.isMark s user = false := by
  unfold Call.isMark
  split
  · cases h
  · rfl

/-- Only the activities of a user renew the marker. -/
theorem only_perform_isMark {r : Request} (hr : r ≠ .activity user) :
    (s.perform r).Only fun c => c.isMark s user = false := by
  cases r with
  | activity v =>
      have hv : v ≠ user := fun e => hr (congrArg _ e)
      refine Only.bind ((only_onActivity v).mono fun c hc => ?_) fun _ => only_pure _
      rcases hc with hc | ⟨text, ttl⟩
      · exact hc.isMark
      · exact decide_eq_false fun e => hv (Keys.sessionMarker_inj.1 e)
  | heartbeat v =>
      exact Only.bind ((only_onHeartbeat v).mono fun c hc => hc.isMark) fun _ => only_pure _
  | changeRange v range =>
      refine Only.bind ((only_changeRange v range).mono fun c hc => ?_) fun _ => only_pure _
      rcases hc with hc | hc
      · exact hc.isMark
      · cases hc <;> rfl
  | resolve v => exact Only.bind ((only_resolve v).mono fun c hc => hc.isMark) fun _ => only_pure _
  | liveAccrual v =>
      exact Only.bind ((only_liveAccrual v).mono fun c hc => hc.isMark) fun _ => only_pure _
  | knownBuckets =>
      exact (reads_perform rfl).mono fun c hc => isMark_of_isReading hc
  | scan job => exact (reads_perform rfl).mono fun c hc => isMark_of_isReading hc

theorem Ranged.perform (h : s.Ranged user m) (r : Request) :
    s.Ranged user (m.run (s.perform r)).2 := by
  by_cases hr : r = .activity user
  · -- the activity has asked for the alert range before it has renewed the marker
    subst hr
    intro hn
    refine absurd hn ?_
    have hmap : (m.run (s.perform (.activity user))).2 = (m.run (s.onActivity user)).2 :=
      congrArg (·.2) (Memory.run_map (m := m) (s.onActivity user) Report.accrual)
    rw [hmap]
    unfold onActivity
    rw [Memory.run_bind_ok (a := m.clock.now) (t := m) rfl, Memory.run_bind_ok (s.run_resolve user)]
    exact rangeText?_run _ (rangeText?_resolved user m)
  · exact h.run (only_perform_isMark hr)

/-- Whatever has happened, one thing after another: a user without a stored alert range has no
marker. -/
theorem ranged_proceed (hs : List Happening) (h : s.Ranged user m) :
    s.Ranged user (m.proceed s hs).2 := by
  induction hs generalizing m with
  | nil => exact h
  | cons x rest ih =>
      refine ih ?_
      cases x with
      | request r => exact h.perform r
      | profile v r => exact h
      | clock t => exact h

end Service

/-! ## Nothing to move -/

namespace Service

variable {s : Service} {user : String} {m : Memory} {c : Call} {mayMark : Bool}

/-- A user has no seconds in any accrual set. -/
def Bare (s : Service) (user : String) (m : Memory) : Prop :=
  ∀ b, m.store.getScore (s.keys.accrualSet b) user = 0

/-- The calls about a user that add no seconds; one of two operations may renew the marker. -/
structure IdleCall (s : Service) (user : String) (mayMark : Bool) (c : Call) : Prop where
  own : s.OwnCall user c
  added : c.added = 0
  mark : c.isMark s user = false ∨ mayMark = true

/-- A call that adds nothing to nothing moves no seconds. -/
theorem IdleCall.purse (hc : s.IdleCall user mayMark c) (h : s.Bare user m) : ∃ e,
    (Memory.serve c m).2.purse s user = { m.purse s user with range := e } := by
  have hput (b : Int) : (m.purse s user).put b 0 = m.purse s user := Purse.put_self (h b)
  obtain ⟨hown, h0, -⟩ := hc
  cases hown with
  | any hown =>
      cases hown with
      | setRange range => exact ⟨_, m.purse_putRange s user (toString range)⟩
      | list b => exact ⟨_, m.purse_list s user b⟩
      | reset b => exact ⟨_, (m.purse_putScore s user b 0).trans (hput b)⟩
      | gain b hpos => exact absurd h0 (Int.ne_of_gt hpos)
      | spend day hpos => exact absurd h0 (Int.ne_of_gt hpos)
      | _ => exact ⟨_, rfl⟩
  | mark hown =>
      obtain ⟨text, ttl⟩ := hown
      cases ttl with
      | none => exact ⟨_, m.purse_putMarker s user text none⟩
      | some n =>
          rcases m.serve_setString (s.keys.sessionMarker user) text n with ⟨x, hs⟩ | ⟨e, hs⟩
          · rw [hs]
            exact ⟨_, m.purse_putMarker s user text (some x)⟩
          · rw [hs]
            exact ⟨_, rfl⟩
  | move hown =>
      cases hown with
      | lift b => exact ⟨_, (m.purse_dropMember s user b).trans (hput b)⟩
      | drop b n =>
          obtain rfl : n = 0 := h0
          rcases m.serve_incrScore (s.keys.accrualSet b) user 0 with hs | hs
          · rw [hs, h b]
            exact ⟨_, (m.purse_putScore s user b (0 + 0)).trans (hput b)⟩
          · rw [hs]
            exact ⟨_, rfl⟩

/-- The contract of an operation on a user with neither a session marker nor scores, while another
one goes on: the one that may renew the marker finds none before. -/
def idling (s : Service) (user : String) (mayMark : Bool) :
    Contract Call.Reply (List Exchange) where
  allows call _ := s.IdleCall user mayMark call
  answers call xs reply ys := ∃ m : Memory, s.Bare user m ∧
    (mayMark = true → hasMarked s user xs = false → s.marker m user = none) ∧
    reply = (Memory.serve call m).1 ∧ ys = ⟨call, m, none⟩ :: xs

section Idling

variable {xs : List Exchange}

theorem meets_idle {F : c.Reply → List Exchange → Prop} (hc : s.IdleCall user mayMark c)
    (hF : ∀ (m : Memory) (a : c.Reply), s.Bare user m →
      (mayMark = true → hasMarked s user xs = false → s.marker m user = none) →
      (Memory.serve c m).1 = .ok a → F a (⟨c, m, none⟩ :: xs)) :
    Meets (s.idling user mayMark) (of c) F xs := by
  refine meets_ask hc ?_
  rintro a ys ⟨m, hm, hmark, ha, rfl⟩
  exact hF m a hm hmark ha.symm

/-- A call whose reply does not matter. -/
theorem meets_idle_any (hc : s.IdleCall user mayMark c) :
    Meets (s.idling user mayMark) (of c) (fun _ _ => True) xs :=
  meets_idle hc fun _ _ _ _ _ => True.intro

/-- The user has no scores. -/
theorem meets_getScore_idle (b : Int) (h : hasMarked s user xs = false) :
    Meets (s.idling user mayMark) (getScore (s.keys.accrualSet b) user)
      (fun n ys => n = 0 ∧ hasMarked s user ys = false) xs := by
  refine meets_idle ⟨.any (.getScore b), rfl, .inl rfl⟩ ?_
  rintro m n hm - ⟨⟩
  exact ⟨hm b, h⟩

/-- The user has no marker before the operation writes one. -/
theorem meets_getMarker_idle (h : hasMarked s user xs = false) :
    Meets (s.idling user true) (getString (s.keys.sessionMarker user))
      (fun text ys => text = none ∧ hasMarked s user ys = false) xs := by
  refine meets_idle ⟨.any .getMarker, rfl, .inl rfl⟩ ?_
  rintro m text - hm ⟨⟩
  refine ⟨?_, h⟩
  unfold Store.getString
  rw [show m.store.strings.get? (s.keys.sessionMarker user) = none from hm rfl h]
  rfl

/-- Asking for the alert range moves no seconds. -/
theorem meets_resolve_idle (h : hasMarked s user xs = false) :
    Meets (s.idling user mayMark) (s.resolve user)
      (fun _ ys => hasMarked s user ys = false) xs := by
  refine Keeps.mono (fun o ys hy _ _ => hy)
    (Only.keeps (I := fun ys => hasMarked s user ys = false) ?_ (only_resolve_added user) h)
  rintro c ys ⟨hc, h0⟩ hy
  refine ⟨⟨.any hc, h0, .inl hc.isMark⟩, ?_⟩
  rintro r zs ⟨m, -, -, -, rfl⟩
  show (c.isMark s user || hasMarked s user ys) = false
  rw [hc.isMark, hy]
  rfl

/-- A session that is closed without accrued seconds leaves none. -/
theorem meets_closeSession_idle (b : Int) (t : Instant) :
    Meets (s.idling user mayMark) (s.closeSession user (s.keys.accrualSet b) 0 t)
      (fun _ _ => True) xs :=
  (meets_idle_any ⟨.any (.reset b), rfl, .inl rfl⟩).bind fun _ _ _ => meets_pure True.intro

/-- A change of the alert range moves no seconds. -/
theorem idles_changeRange (s : Service) (user : String) {r : Int} (hr : 0 < r) :
    Meets (s.idling user false) (s.changeRange user r) (fun _ _ => True) [] := by
  have hset : s.IdleCall user false
      (.store (.setString (s.keys.alertRange user) (toString r) none)) :=
    ⟨.any (.setRange r), rfl, .inl (UserCall.isMark (.setRange r))⟩
  have hlist (ys : List Exchange) : Meets (s.idling user false) (do
      setString (s.keys.alertRange user) (toString r) none
      s.registerBucket r) (fun _ _ => True) ys :=
    (meets_idle_any hset).bind fun _ _ _ => meets_idle_any ⟨.any (.list r), rfl, .inl rfl⟩
  unfold changeRange
  rw [if_neg (by omega)]
  refine (meets_resolve_idle rfl).bind fun b xs hx => ?_
  dsimp only
  split
  · exact hlist xs
  · refine Meets.bind (F := fun _ _ => True) ?_ fun _ ys _ => hlist ys
    -- the score that is moved is zero
    refine (meets_getScore_idle b hx).bind fun n ys hn => ?_
    obtain ⟨rfl, -⟩ := hn
    refine (meets_idle_any ⟨.move (.lift b), rfl, .inl rfl⟩).bind fun _ _ _ => ?_
    exact (meets_idle_any ⟨.move (.drop r 0), rfl, .inl rfl⟩).bind fun _ _ _ =>
      meets_pure True.intro

/-- An activity starts a session. -/
theorem idles_onActivity (s : Service) (user : String) :
    Meets (s.idling user true) (s.onActivity user) (fun a _ => a.gained = 0) [] := by
  refine Meets.bind (F := fun _ ys => hasMarked s user ys = false)
    (meets_idle ⟨.any .now, rfl, .inl rfl⟩ fun _ _ _ _ _ => rfl) fun time _ h1 => ?_
  refine (meets_resolve_idle h1).bind fun b _ h2 => ?_
  refine (meets_getScore_idle b h2).bind fun n _ h3 => ?_
  obtain ⟨rfl, h3⟩ := h3
  refine (meets_getMarker_idle h3).bind fun text _ h4 => ?_
  obtain ⟨rfl, -⟩ := h4
  refine (meets_idle_any ⟨.mark (.mark _ _), rfl, .inr rfl⟩).bind fun _ _ _ => ?_
  exact (meets_closeSession_idle b time).bind fun _ _ _ => meets_pure rfl

/-- A heartbeat finds nothing to do. -/
theorem idles_onHeartbeat (s : Service) (user : String) :
    Meets (s.idling user true) (s.onHeartbeat user) (fun a _ => a.gained = 0) [] := by
  refine (meets_resolve_idle rfl).bind fun b _ h1 => ?_
  refine (meets_getMarker_idle h1).bind fun text _ h2 => ?_
  obtain ⟨rfl, h2⟩ := h2
  refine (meets_getScore_idle b h2).bind fun n _ h3 => ?_
  obtain ⟨rfl, -⟩ := h3
  exact meets_pure rfl

end Idling

end Service

end Presence
