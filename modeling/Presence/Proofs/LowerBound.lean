import Presence.Proofs.Interleaving
import Presence.Proofs.Sparing

/-!
# Accrual as a lower bound

Whatever calls fail, the accrued and spent seconds of a user are no more than the time from the
first to the latest session marker of the user. `Service.Covered` is the condition that holds at
every point of every operation; while an operation is under way it may hold with seconds to spare,
which are those that the operation is about to write. Main statement:
`Service.credit_le_marked_time`.
-/

set_option autoImplicit false

namespace Presence

/-- A call that has written the session marker of a user. -/
def Exchange.marks (k : Keys) (user : String) (x : Exchange) : Bool :=
  match x.call with
  | .store (.setString key _ _) => key = k.sessionMarker user && x.reply.isOk
  | _ => false

/-- The times at which the session marker of a user was written, the latest first. -/
def markTimes (k : Keys) (user : String) (h : List (Nat × Exchange)) : List Instant :=
  (h.filter fun x => x.2.marks k user).map fun x => x.2.before.clock.now

/-- The times with that of one more call, if it has written the marker. -/
def noteMark (k : Keys) (user : String) (x : Exchange) (ts : List Instant) : List Instant :=
  if x.marks k user then x.before.clock.now :: ts else ts

section Marks

variable {k : Keys} {user : String}

theorem markTimes_cons (i : Nat) (x : Exchange) (h : List (Nat × Exchange)) :
    markTimes k user ((i, x) :: h) = noteMark k user x (markTimes k user h) := by
  unfold markTimes noteMark
  rw [List.filter_cons]
  dsimp only
  split
  · rfl
  · rfl

theorem noteMark_congr {c : Call} {m : Memory} {r r' : Option Failure}
    (h : (⟨c, m, r⟩ : Exchange).reply = (⟨c, m, r'⟩ : Exchange).reply) (ts : List Instant) :
    noteMark k user ⟨c, m, r⟩ ts = noteMark k user ⟨c, m, r'⟩ ts := by
  unfold noteMark Exchange.marks
  dsimp only
  rw [h]

theorem noteMark_of_not_isOk {x : Exchange} (h : x.reply.isOk = false) (ts : List Instant) :
    noteMark k user x ts = ts := by
  have hm : x.marks k user = false := by
    unfold Exchange.marks
    split
    · rw [h, Bool.and_false]
    · rfl
  unfold noteMark
  rw [hm]
  rfl

theorem noteMark_of_spares {c : Call} (h : c.Spares k user) (m : Memory)
    (refused : Option Failure) (ts : List Instant) :
    noteMark k user ⟨c, m, refused⟩ ts = ts := by
  have hm : Exchange.marks k user ⟨c, m, refused⟩ = false := by
    unfold Exchange.marks
    split
    · rename_i key value ttl e
      dsimp only at e
      subst e
      rw [decide_eq_false h, Bool.false_and]
    · rfl
  unfold noteMark
  rw [hm]
  rfl

theorem noteMark_of_marker {c : Call} {m : Memory} {value : String} {ttl : Option Nat}
    (hc : c = .store (.setString (k.sessionMarker user) value ttl)) {refused : Option Failure}
    (h : (⟨c, m, refused⟩ : Exchange).reply.isOk = true) (ts : List Instant) :
    noteMark k user ⟨c, m, refused⟩ ts = m.clock.now :: ts := by
  have hm : Exchange.marks k user ⟨c, m, refused⟩ = true := by
    subst hc
    unfold Exchange.marks
    dsimp only
    rw [h, decide_eq_true rfl]
    rfl
  unfold noteMark
  rw [hm]
  rfl

end Marks

/-- Seconds that fit between the first and the latest of some times. -/
structure Within (n : Int) (ts : List Instant) : Prop where
  of_nil : ts = [] → n = 0
  le : ∀ latest first, ts.head? = some latest → ts.getLast? = some first →
    1000 * n ≤ latest.millis - first.millis

namespace Service

/-- The accrued and spent seconds of a user, and some more, fit between the markers of the user. -/
structure Covered (s : Service) (user : String) (more : Int) (σ : Memory × List Instant) :
    Prop where
  score_nonneg : ∀ b, 0 ≤ σ.1.store.getScore (s.keys.accrualSet b) user
  spent_nonneg : 0 ≤ σ.1.ledger.spent user
  unmarked : σ.2 = [] → s.marker σ.1 user = none
  marked : ∀ t, σ.2.head? = some t →
    t ≤ σ.1.clock.now ∧ ∃ e, s.marker σ.1 user = some e ∧ e.value = toString t.millis
  within : Within (σ.1.credit s.keys user + more) σ.2

namespace Covered

variable {s : Service} {user : String} {more less : Int} {m m' : Memory} {ts : List Instant}

theorem credit_nonneg (h : s.Covered user more (m, ts)) : 0 ≤ m.credit s.keys user :=
  Int.add_nonneg (Store.accrued_nonneg _ h.score_nonneg) h.spent_nonneg

/-- Seconds that are not used may be given up. -/
theorem mono (h : s.Covered user more (m, ts)) (h0 : 0 ≤ less) (hle : less ≤ more) :
    s.Covered user less (m, ts) := by
  have hc := h.credit_nonneg
  refine ⟨h.score_nonneg, h.spent_nonneg, h.unmarked, h.marked, fun hn => ?_, fun a b ha hb => ?_⟩
  · have := h.within.of_nil hn
    dsimp only at this ⊢
    omega
  · have := h.within.le a b ha hb
    dsimp only at this ⊢
    omega

theorem alike (h : s.Covered user more (m, ts)) (ha : Memory.Alike s.keys user m m') :
    s.Covered user more (m', ts) := by
  have hc : m'.credit s.keys user = m.credit s.keys user := by
    unfold Memory.credit
    rw [ha.accrued, ha.spent]
  refine ⟨fun b => ?_, ?_, fun hn => ?_, fun t ht => ?_, ?_⟩
  · rw [ha.score b]
    exact h.score_nonneg b
  · rw [ha.spent]
    exact h.spent_nonneg
  · exact ha.marker.trans (h.unmarked hn)
  · obtain ⟨h1, e, h2, h3⟩ := h.marked t ht
    exact ⟨by rw [ha.clock]; exact h1, e, ha.marker.trans h2, h3⟩
  · rw [hc]
    exact h.within

/-- A score may be written at the expense of the seconds to spare. -/
theorem putScore (h : s.Covered user more (m, ts)) {x : Int} (hx : 0 ≤ x) (b : Int) :
    s.Covered user (more + m.store.getScore (s.keys.accrualSet b) user - x)
      (m.putScore (s.keys.accrualSet b) user x, ts) := by
  have hc : (m.putScore (s.keys.accrualSet b) user x).credit s.keys user =
      m.credit s.keys user + (x - m.store.getScore (s.keys.accrualSet b) user) := by
    have ha := m.store.accrued_setScore (k := s.keys) b user user x
    rw [if_pos rfl] at ha
    show (m.store.setScore _ _ _).accrued s.keys user + m.ledger.spent user = _
    rw [ha]
    unfold Memory.credit
    omega
  refine ⟨fun b' => ?_, h.spent_nonneg, h.unmarked, h.marked, ?_⟩
  · show 0 ≤ (m.store.setScore _ _ _).getScore _ _
    rw [Store.getScore_setScore]
    split
    · exact hx
    · exact h.score_nonneg b'
  · have e : m.credit s.keys user + (x - m.store.getScore (s.keys.accrualSet b) user) +
        (more + m.store.getScore (s.keys.accrualSet b) user - x) =
          m.credit s.keys user + more := by omega
    dsimp only
    rw [hc, e]
    exact h.within

/-- A score that is removed leaves its seconds to spare. -/
theorem dropMember (h : s.Covered user more (m, ts)) (b : Int) :
    s.Covered user (more + m.store.getScore (s.keys.accrualSet b) user)
      (m.dropMember (s.keys.accrualSet b) user, ts) := by
  have hc : (m.dropMember (s.keys.accrualSet b) user).credit s.keys user =
      m.credit s.keys user - m.store.getScore (s.keys.accrualSet b) user := by
    have ha := m.store.accrued_removeMember (k := s.keys) b user user
    rw [if_pos rfl] at ha
    show (m.store.removeMember _ _).accrued s.keys user + m.ledger.spent user = _
    rw [ha]
    unfold Memory.credit
    omega
  have hm : s.marker (m.dropMember (s.keys.accrualSet b) user) user = s.marker m user := by
    unfold marker Memory.dropMember Store.removeMember
    dsimp only
    cases m.store.sets.get? (s.keys.accrualSet b) <;> rfl
  refine ⟨fun b' => ?_, h.spent_nonneg, fun hn => hm.trans (h.unmarked hn), fun t ht => ?_, ?_⟩
  · show 0 ≤ (m.store.removeMember _ _).getScore _ _
    rw [Store.getScore_removeMember]
    split
    · exact Int.le_refl 0
    · exact h.score_nonneg b'
  · obtain ⟨h1, e, h2, h3⟩ := h.marked t ht
    exact ⟨h1, e, hm.trans h2, h3⟩
  · have e : m.credit s.keys user - m.store.getScore (s.keys.accrualSet b) user +
        (more + m.store.getScore (s.keys.accrualSet b) user) =
          m.credit s.keys user + more := by omega
    dsimp only
    rw [hc, e]
    exact h.within

/-- Seconds to spare may be added to the daily statistics. -/
theorem addSpent (h : s.Covered user more (m, ts)) {day : String} {n : Int} (h0 : 0 ≤ n)
    (hs : (m.ledger.add user day n).2.spent user = m.ledger.spent user + n) :
    s.Covered user (more - n) ({ m with ledger := (m.ledger.add user day n).2 }, ts) := by
  refine ⟨h.score_nonneg, ?_, h.unmarked, h.marked, ?_⟩
  · have := h.spent_nonneg
    dsimp only at this ⊢
    rw [hs]
    omega
  · have e : m.store.accrued s.keys user + (m.ledger.spent user + n) + (more - n) =
        m.store.accrued s.keys user + m.ledger.spent user + more := by omega
    unfold Memory.credit
    dsimp only
    rw [hs, e]
    exact h.within

/-- The marker that can be read is the latest one. -/
theorem lastSeen (h : s.Covered user more (m, ts)) {a : Instant}
    (ha : (m.store.getString m.clock.now (s.keys.sessionMarker user)).bind marker? = some a) :
    ts.head? = some a := by
  cases ts with
  | nil =>
      -- without a marker there is nothing to read
      have hn := h.unmarked rfl
      unfold Store.getString at ha
      rw [show m.store.strings.get? (s.keys.sessionMarker user) = none from hn] at ha
      cases ha
  | cons t rest =>
      obtain ⟨-, e, he, hv⟩ := h.marked t rfl
      unfold Store.getString at ha
      rw [show m.store.strings.get? (s.keys.sessionMarker user) = some e from he] at ha
      rw [Option.filter_some] at ha
      split at ha
      · rw [Option.map_some, Option.bind_some, hv, marker?_toString] at ha
        exact ha
      · cases ha

/-- A new marker leaves the time since the one before to spare. -/
theorem mark (h : s.Covered user 0 (m, ts)) {gap : Int}
    (hgap : ∀ a, ts.head? = some a → 1000 * gap ≤ m.clock.now.millis - a.millis)
    (hnil : ts = [] → gap = 0) (expires : Option Instant) :
    s.Covered user gap (m.putString (s.keys.sessionMarker user) (toString m.clock.now.millis)
      expires, m.clock.now :: ts) := by
  refine ⟨h.score_nonneg, h.spent_nonneg, fun hn => (by cases hn), ?_, ?_⟩
  · rintro t ⟨⟩
    exact ⟨Int.le_refl _, _, s.marker_putString m user _ _, rfl⟩
  · refine ⟨fun hn => (by cases hn), ?_⟩
    rintro latest first ⟨⟩ hl
    show 1000 * (m.credit s.keys user + gap) ≤ _
    -- the first marker is also the latest one, and nothing was accrued before it
    cases ts with
    | nil =>
        have h1 : m.credit s.keys user + 0 = 0 := h.within.of_nil rfl
        have h2 := hnil rfl
        obtain rfl : m.clock.now = first := Option.some.inj hl
        omega
    | cons a rest =>
        -- the first marker stays, and the latest one moves by at least the gap
        rw [List.getLast?_cons_cons] at hl
        have h1 : 1000 * (m.credit s.keys user + 0) ≤ a.millis - first.millis :=
          h.within.le a first rfl hl
        have h2 := hgap a rfl
        omega

theorem clockAt (h : s.Covered user more (m, ts)) {t : Instant} (ht : m.clock.now ≤ t) :
    s.Covered user more (m.clockAt t, ts) := by
  refine ⟨h.score_nonneg, h.spent_nonneg, h.unmarked, fun a ha => ?_, h.within⟩
  obtain ⟨h1, h2⟩ := h.marked a ha
  exact ⟨Int.le_trans h1 ht, h2⟩

end Covered

/-! ## Programs that are safe however their calls end -/

open Operation Program

/-- Whatever calls of a program fail, the seconds of a user stay covered. -/
def Safe {α : Type} (s : Service) (user : String) (p : Operation α)
    (σ : Memory × List Instant) : Prop :=
  p.Keeps (Pool.refusing (s.Covered user 0) (noteMark s.keys user))
    (fun _ σ => s.Covered user 0 σ) σ

section Safe

variable {α β : Type} {s : Service} {user : String} {m : Memory} {ts : List Instant}

theorem Safe.bind {p : Operation α} {f : α → Operation β} {σ : Memory × List Instant}
    (hp : s.Safe user p σ) (hf : ∀ a τ, s.Covered user 0 τ → s.Safe user (f a) τ) :
    s.Safe user (p >>= f) σ := by
  refine keeps_bind.2 (Keeps.mono (fun o τ h => ?_) hp)
  cases o with
  | ok a => exact hf a τ h
  | failed e => exact h
  | crashed c => exact h

theorem Safe.map {p : Operation α} {σ : Memory × List Instant} (hp : s.Safe user p σ)
    (g : α → β) : s.Safe user (p >>= fun a => pure (g a)) σ := hp.bind fun _ _ h => h

/-- A call that succeeds, unless it is refused. -/
theorem safe_of_bind_ok {c : Call} {f : c.Reply → Operation α} {a : c.Reply} {m' : Memory}
    (h : s.Covered user 0 (m, ts)) (hs : Memory.serve c m = (.ok a, m'))
    (hf : s.Safe user (f a) (m', noteMark s.keys user ⟨c, m, none⟩ ts)) :
    s.Safe user (of c >>= f) (m, ts) := by
  refine keeps_bind.2 ⟨h, ?_⟩
  rintro r τ ⟨refused, rfl, rfl⟩
  rcases Exchange.cases_refusal c m refused with ⟨e, hr, ha⟩ | ⟨hr, ha⟩
  · -- a refused call has changed nothing
    rw [hr, ha, noteMark_of_not_isOk (by rw [hr]; rfl)]
    exact h
  · have hn : noteMark s.keys user ⟨c, m, refused⟩ ts = noteMark s.keys user ⟨c, m, none⟩ ts :=
      noteMark_congr (by rw [hr, Exchange.reply_of_none]) ts
    rw [hr, ha, hn, hs]
    exact hf

/-- A call that crashes and changes nothing. -/
theorem safe_of_bind_crashed {c : Call} {f : c.Reply → Operation α} {e : Crash}
    (h : s.Covered user 0 (m, ts)) (hs : Memory.serve c m = (.crashed e, m)) :
    s.Safe user (of c >>= f) (m, ts) := by
  refine keeps_bind.2 ⟨h, ?_⟩
  rintro r τ ⟨refused, rfl, rfl⟩
  rcases Exchange.cases_refusal c m refused with ⟨e', hr, ha⟩ | ⟨hr, ha⟩
  · rw [hr, ha, noteMark_of_not_isOk (by rw [hr]; rfl)]
    exact h
  · rw [hr, ha, hs, noteMark_of_not_isOk (by rw [hr, hs]; rfl)]
    exact h

/-- A program that leaves the user alone leaves the user as before, whatever calls fail. -/
theorem keeps_of_spares {p : Operation α} (hp : s.Spares user p) {m' : Memory}
    (h : s.Covered user 0 (m, ts)) (ha : Memory.Alike s.keys user m m') :
    p.Keeps (Pool.refusing (s.Covered user 0) (noteMark s.keys user))
      (fun _ τ => τ.2 = ts ∧ Memory.Alike s.keys user m τ.1) (m', ts) := by
  induction p generalizing m' with
  | done o => exact ⟨rfl, ha⟩
  | call c next ih =>
      -- refused or not, the call leaves the user as before
      refine ⟨h.alike ha, ?_⟩
      rintro r τ ⟨refused, rfl, rfl⟩
      dsimp only
      rw [noteMark_of_spares hp.1]
      refine ih _ (hp.2 _) ?_
      rcases Exchange.cases_refusal c m' refused with ⟨e, hr, he⟩ | ⟨hr, he⟩
      · rw [he]
        exact ha
      · rw [he]
        exact ha.trans (Memory.alike_serve hp.1 m')

theorem safe_of_spares {p : Operation α} (hp : s.Spares user p)
    (h : s.Covered user 0 (m, ts)) : s.Safe user p (m, ts) := by
  refine Keeps.mono ?_ (keeps_of_spares hp h (Memory.Alike.refl m))
  rintro o ⟨m', ts'⟩ ⟨rfl, ha⟩
  exact h.alike ha

theorem safe_of_bind_spares {p : Operation α} {f : α → Operation β} (hp : s.Spares user p)
    (h : s.Covered user 0 (m, ts))
    (hf : ∀ a m', Memory.Alike s.keys user m m' → s.Safe user (f a) (m', ts)) :
    s.Safe user (p >>= f) (m, ts) := by
  refine keeps_bind.2 (Keeps.mono ?_ (keeps_of_spares hp h (Memory.Alike.refl m)))
  rintro o ⟨m', ts'⟩ ⟨rfl, ha⟩
  cases o with
  | ok a => exact hf a m' ha
  | failed e => exact h.alike ha
  | crashed c => exact h.alike ha

/-- A call that only reads, with what it comes back with. -/
theorem safe_of_bind_reading {c : Call} {f : c.Reply → Operation α} {a : c.Reply}
    (hc : c.Spares s.keys user) (ha : Memory.serve c m = (.ok a, m))
    (h : s.Covered user 0 (m, ts)) (hf : s.Safe user (f a) (m, ts)) :
    s.Safe user (of c >>= f) (m, ts) := by
  apply safe_of_bind_ok h ha
  rw [noteMark_of_spares hc]
  exact hf

/-! ## The operations on a user -/

theorem safe_flush {t : Instant} {n : Int} (h : s.Covered user n (m, ts)) (h0 : 0 ≤ n) :
    s.Safe user (flush user n (s.session.zone.dayKey t)) (m, ts) := by
  have hc : s.Covered user 0 (m, ts) := h.mono (Int.le_refl 0) h0
  rcases m.serve_addSpent user (s.session.zone.dayKey t) n with ⟨hs, he⟩ | hs
  · apply safe_of_bind_ok hc hs
    have ha := h.addSpent h0 he
    rw [Int.sub_self] at ha
    refine safe_of_spares ?_ ha
    exact Only.bind (spares_of True.intro) fun _ => spares_of True.intro
  · exact safe_of_bind_crashed hc hs

/-- Ending a session: what is taken out of the set is what may be written. -/
theorem safe_closeSession {b : Int} {t : Instant} (h : s.Covered user 0 (m, ts)) :
    s.Safe user (s.closeSession user (s.keys.accrualSet b)
      (m.store.getScore (s.keys.accrualSet b) user) t) (m, ts) := by
  have hr := h.putScore (Int.le_refl 0) b
  rw [Int.zero_add, Int.sub_zero] at hr
  have h0 := h.score_nonneg b
  dsimp only at h0
  -- the reset comes first, so that a failure after it loses the seconds
  refine safe_of_bind_ok h rfl ?_
  show s.Safe user _ (m.putScore (s.keys.accrualSet b) user 0, ts)
  split
  · exact hr.mono (Int.le_refl 0) h0
  · exact (safe_flush hr h0).map _

/-- Seconds to spare may be added to a score. -/
theorem safe_incrScore {b n : Int} (h : s.Covered user n (m, ts)) (h0 : 0 ≤ n) :
    s.Safe user (incrScore (s.keys.accrualSet b) user n) (m, ts) := by
  have hc := h.mono (Int.le_refl 0) h0
  have hn := h.score_nonneg b
  dsimp only at hn
  rw [← Program.bind_pure (incrScore _ _ _)]
  rcases m.serve_incrScore (s.keys.accrualSet b) user n with hs | hs
  · apply safe_of_bind_ok hc hs
    -- the seconds to spare are used up
    have hp := h.putScore (Int.add_nonneg hn h0) b
    have e : n + m.store.getScore (s.keys.accrualSet b) user -
        (m.store.getScore (s.keys.accrualSet b) user + n) = 0 := by omega
    rw [e] at hp
    exact hp
  · exact safe_of_bind_crashed hc hs

theorem safe_judge {b : Int} {t : Instant} {lastSeen : Option Instant}
    (h : s.Covered user 0 (m, ts))
    (hgap : ∀ a, lastSeen = some a → 0 < t.secondsSince a →
      s.Covered user (t.secondsSince a) (m, ts)) :
    s.Safe user (s.judge user (s.keys.accrualSet b)
      (m.store.getScore (s.keys.accrualSet b) user) t lastSeen) (m, ts) := by
  unfold judge
  cases lastSeen with
  | none => exact (safe_closeSession h).map _
  | some a =>
      dsimp only
      split
      · exact (safe_closeSession h).map _
      · split
        · rename_i h0
          have hg := hgap a rfl h0
          exact (safe_incrScore hg (Int.le_of_lt h0)).map _
        · exact h

/-- The time since the last activity is to spare when the marker of an activity was written. -/
theorem Covered.mark_gap (h : s.Covered user 0 (m, ts)) {a : Instant}
    (ha : ts.head? = some a) (x : Option Instant) :
    s.Covered user (m.clock.now.secondsSince a) (m.putString (s.keys.sessionMarker user)
      (toString m.clock.now.millis) x, m.clock.now :: ts) := by
  have hle : a.millis ≤ m.clock.now.millis := (h.marked a ha).1
  refine h.mark (fun a' ha' => ?_) (fun hn => ?_) x
  · obtain rfl : a = a' := Option.some.inj (ha.symm.trans ha')
    unfold Instant.secondsSince
    rw [Int.tdiv_eq_ediv_of_nonneg (by omega)]
    omega
  · rw [hn] at ha
    cases ha

theorem safe_onActivity (h : s.Covered user 0 (m, ts)) :
    s.Safe user (s.onActivity user) (m, ts) := by
  refine safe_of_bind_reading (a := m.clock.now) True.intro rfl h ?_
  refine safe_of_bind_spares (spares_resolve user) h fun b m' ha => ?_
  replace h := h.alike ha
  rw [← ha.clock]
  refine safe_of_bind_reading True.intro rfl h ?_
  refine safe_of_bind_reading True.intro rfl h ?_
  rcases m'.serve_setString (s.keys.sessionMarker user) (toString m'.clock.now.millis)
    s.session.markerSeconds with ⟨x, hs⟩ | ⟨c, hs⟩
  · apply safe_of_bind_ok h hs
    rw [noteMark_of_marker rfl (by rw [Exchange.reply_of_none, hs]; rfl)]
    have hm : s.Covered user 0 (m'.putString (s.keys.sessionMarker user)
        (toString m'.clock.now.millis) (some x), m'.clock.now :: ts) := by
      refine h.mark (fun a ha => ?_) (fun _ => rfl) (some x)
      have hle : a.millis ≤ m'.clock.now.millis := (h.marked a ha).1
      omega
    -- what was read before the new marker is the marker before it
    exact safe_judge (b := b) hm fun a ha _ => h.mark_gap (h.lastSeen ha) (some x)
  · exact safe_of_bind_crashed h hs

theorem safe_onHeartbeat (h : s.Covered user 0 (m, ts)) :
    s.Safe user (s.onHeartbeat user) (m, ts) := by
  refine safe_of_bind_spares (spares_resolve user) h fun b m' ha => ?_
  replace h := h.alike ha
  refine safe_of_bind_reading True.intro rfl h ?_
  cases m'.store.getString m'.clock.now (s.keys.sessionMarker user) with
  | some text => exact h
  | none =>
      refine safe_of_bind_reading True.intro rfl h ?_
      split
      · exact h
      · refine safe_of_bind_reading True.intro rfl h ?_
        exact (safe_closeSession h).map _

theorem safe_moveAccrual {previous range : Int} (h : s.Covered user 0 (m, ts)) :
    s.Safe user (s.moveAccrual user previous range) (m, ts) := by
  have h0 := h.score_nonneg previous
  dsimp only at h0
  have hd := h.dropMember previous
  rw [Int.zero_add] at hd
  -- if the score is not added to the other bucket its seconds are lost
  have hd0 := hd.mono (Int.le_refl 0) h0
  refine safe_of_bind_reading True.intro rfl h ?_
  refine safe_of_bind_ok h rfl ?_
  show s.Safe user _ (m.dropMember (s.keys.accrualSet previous) user, ts)
  exact (safe_incrScore hd h0).map _

theorem safe_changeRange (h : s.Covered user 0 (m, ts)) (range : Int) :
    s.Safe user (s.changeRange user range) (m, ts) := by
  -- the last two writes concern the range and the index only
  have hl : ∀ τ, s.Covered user 0 τ → s.Safe user (do
      setString (s.keys.alertRange user) (toString range) none
      s.registerBucket range) τ := by
    rintro ⟨m', ts'⟩ h'
    refine safe_of_spares ?_ h'
    exact Only.bind (spares_of (Keys.sessionMarker_ne_alertRange user user).symm) fun _ =>
      spares_of (.inl Keys.bucket?_bucketIndex)
  unfold changeRange
  split
  · exact h
  · refine safe_of_bind_spares (spares_resolve user) h fun previous m' ha => ?_
    replace h := h.alike ha
    split
    · exact hl _ h
    · exact (safe_moveAccrual h).bind fun _ τ hτ => hl τ hτ

theorem safe_perform {P : Pool} {r : Request} (hr : P.oneAtATime (.begin r) = true)
    (h : s.Covered user 0 (m, ts)) : s.Safe user (s.perform r) (m, ts) := by
  cases r with
  | activity u =>
      by_cases hu : user = u
      · subst hu
        exact (safe_onActivity h).map _
      · exact safe_of_spares (spares_perform rfl hu) h
  | heartbeat u =>
      by_cases hu : user = u
      · subst hu
        exact (safe_onHeartbeat h).map _
      · exact safe_of_spares (spares_perform rfl hu) h
  | changeRange u range =>
      by_cases hu : user = u
      · subst hu
        exact (safe_changeRange h range).map _
      · exact safe_of_spares (spares_perform rfl hu) h
  | resolve u => cases hr
  | liveAccrual u => cases hr
  | knownBuckets => cases hr
  | scan job => cases hr

theorem covered_of_empty (hstore : m.store = {}) (hledger : m.ledger = {}) :
    s.Covered user 0 (m, []) := by
  refine ⟨fun b => ?_, ?_, fun _ => ?_, fun t ht => (by cases ht), fun _ => ?_, ?_⟩
  · dsimp only
    rw [hstore]
    exact Int.le_refl 0
  · dsimp only
    rw [hledger]
    exact Int.le_refl 0
  · dsimp only [marker]
    rw [hstore]
    rfl
  · dsimp only [Memory.credit]
    rw [hstore, hledger]
    rfl
  · intro latest first hl
    cases hl

end Safe

/-- At every point of a run of events and changes of the alert range, one after another from empty
stores, in which any calls have failed: the accrued and spent seconds of a user fit between the
first and the latest marker of the user. -/
theorem credit_le_marked_time (s : Service) {m : Memory} (hstore : m.store = {})
    (hledger : m.ledger = {}) (as : List Move)
    (ha : (⟨m, [], []⟩ : Pool).admits s Pool.oneAtATime as = true) (user : String) :
    Within (((⟨m, [], []⟩ : Pool).play s as).memory.credit s.keys user)
      (markTimes s.keys user ((⟨m, [], []⟩ : Pool).play s as).history) := by
  have h0 : s.Covered user 0 (m, []) := covered_of_empty hstore hledger
  -- no program runs at first
  have hr : Pool.Running (s.Covered user 0) (noteMark s.keys user) (markTimes s.keys user)
      ⟨m, [], []⟩ := Pool.Running.of_isIdle h0 rfl
  have hc := Pool.play_sequential markTimes_cons (fun _ _ _ h ht => h.clockAt ht)
    (fun P r σ hr h => safe_perform hr h) as hr ha
  have hw := hc.within
  rw [Int.add_zero] at hw
  exact hw

/-- Three activities, of which the second fails when it is about to accrue its gap. -/
def lostGap : List Move :=
  .begin (.activity "ada") :: List.replicate 9 (.step 0 none) ++
    .clock ⟨1792324832000, by decide⟩ :: .begin (.activity "ada") ::
      List.replicate 5 (.step 1 none) ++
    .step 1 (some (.reported "no connection")) ::
    .clock ⟨1792324852000, by decide⟩ :: .begin (.activity "ada") ::
      List.replicate 6 (.step 2 none)

theorem credit_le_marked_time_lostGap :
    Within (((⟨.fresh Clock.noon, [], []⟩ : Pool).play standard lostGap).memory.credit
          standard.keys "ada")
        (markTimes standard.keys "ada"
          ((⟨.fresh Clock.noon, [], []⟩ : Pool).play standard lostGap).history) ∧
      ((⟨.fresh Clock.noon, [], []⟩ : Pool).play standard lostGap).memory.credit
        standard.keys "ada" = 20 :=
  ⟨credit_le_marked_time standard rfl rfl lostGap (by decide +kernel) "ada", by decide +kernel⟩

end Service

end Presence
