import Presence.Memory
import Presence.Query
import Presence.Session
import Presence.Proofs.Totals

/-!
# Operations in memory

What every operation on sessions and alert ranges does to surroundings in which nothing goes wrong:
its outcome and the surroundings that it leaves behind, branch by branch. The equations of this
module are all that later proofs use of the texts of the operations.
-/

set_option autoImplicit false

namespace Presence

theorem Instant.after_cases (t : Instant) (n : Int) :
    (∃ t', t.after n = .ok t' ∧ t'.millis = t.millis + 1000 * n) ∨ t.after n = .crashed .span ∨
      t.after n = .crashed .instant := by
  unfold Instant.after
  split
  · cases h : Instant.ofMillis? (t.millis + 1000 * n) with
    | none => exact .inr (.inr rfl)
    | some t' => exact .inl ⟨t', rfl, Instant.ofMillis?_eq_some.1 h⟩
  · exact .inr (.inl rfl)

namespace Store

variable (t : Store) (now : Instant) (key value : String) (ttl : Option Nat)

/-- Writing a text leaves the sets alone, and other texts as well. -/
theorem setString_facts {other : String} (h : other ≠ key) :
    (t.setString now key value ttl).2.sets = t.sets ∧
      (t.setString now key value ttl).2.strings.get? other = t.strings.get? other := by
  unfold setString
  cases ttl with
  | none => exact ⟨rfl, Table.get?_set_of_ne _ _ h⟩
  | some n =>
      dsimp only
      cases now.after (Signed64.ofUnsigned n) with
      | ok t => exact ⟨rfl, Table.get?_set_of_ne _ _ h⟩
      | failed e => exact ⟨rfl, rfl⟩
      | crashed c => exact ⟨rfl, rfl⟩

end Store

namespace Memory

open Operation

variable {α β : Type} (m : Memory)

/-- Sets the clock. -/
def clockAt (t : Instant) : Memory := { m with clock := ⟨t, false⟩ }

/-- Writes a text. -/
def putString (key value : String) (expires : Option Instant) : Memory :=
  { m with store := { m.store with strings := m.store.strings.set key ⟨value, expires⟩ } }

/-- Writes a score. -/
def putScore (set member : String) (value : Int) : Memory :=
  { m with store := m.store.setScore set member value }

/-- Removes a member from a set. -/
def dropMember (set member : String) : Memory :=
  { m with store := m.store.removeMember set member }

/-- Adds seconds to the statistics of a day and counts them. -/
def addFlush (user day : String) (seconds : Int) : Memory :=
  { m with
    ledger := (m.ledger.add user day seconds).2
    metrics := (m.metrics.add .sessionsFlushed 1).add .flushedSeconds seconds.toNat }

/-- The accrued and the spent seconds of a user together. -/
def credit (k : Keys) (m : Memory) (user : String) : Int :=
  m.store.accrued k user + m.ledger.spent user

/-- No call moves the clock. -/
theorem clock_serve (c : Call) : (serve c m).2.clock = m.clock := by
  cases c <;> rfl

variable {m}

theorem run_bind_ok {p : Operation α} {f : α → Operation β} {a : α} {t : Memory}
    (h : m.run p = (.ok a, t)) : m.run (p >>= f) = t.run (f a) := by
  have hb := Program.run_bind serve p f m
  rw [show Program.run serve p m = (.ok a, t) from h] at hb
  exact hb

theorem run_bind_crashed {p : Operation α} {f : α → Operation β} {c : Crash} {t : Memory}
    (h : m.run p = (.crashed c, t)) : m.run (p >>= f) = (.crashed c, t) := by
  have hb := Program.run_bind serve p f m
  rw [show Program.run serve p m = (.crashed c, t) from h] at hb
  exact hb

/-- A function of the value is applied to whatever the operation ends with. -/
theorem run_map (p : Operation α) (f : α → β) :
    m.run (p >>= fun a => pure (f a)) = ((m.run p).1.map f, (m.run p).2) := by
  rcases h : m.run p with ⟨o, t⟩
  have hb := Program.run_bind serve p (fun a => pure (f a)) m
  rw [show Program.run serve p m = (o, t) from h] at hb
  cases o <;> exact hb

theorem run_setString_of_ok {key value : String} {ttl : Nat} {t : Instant}
    (h : m.clock.now.after (Signed64.ofUnsigned ttl) = .ok t) :
    m.run (setString key value (some ttl)) = (.ok (), m.putString key value (some t)) := by
  show (let (r, s) := m.store.setString m.clock.now key value (some ttl)
    (r, { m with store := s })) = _
  simp only [Store.setString, h]
  rfl

theorem run_setString_of_crashed {key value : String} {ttl : Nat} {c : Crash}
    (h : m.clock.now.after (Signed64.ofUnsigned ttl) = .crashed c) :
    m.run (setString key value (some ttl)) = (.crashed c, m) := by
  show (let (r, s) := m.store.setString m.clock.now key value (some ttl)
    (r, { m with store := s })) = _
  simp only [Store.setString, h]

/-- Writing a text that lasts for a time succeeds, or it crashes and changes nothing. -/
theorem serve_setString (key value : String) (ttl : Nat) :
    (∃ x, serve (.store (.setString key value (some ttl))) m =
        (.ok (), m.putString key value (some x))) ∨
      ∃ c, serve (.store (.setString key value (some ttl))) m = (.crashed c, m) := by
  rcases m.clock.now.after_cases (Signed64.ofUnsigned ttl) with ⟨x, hx, -⟩ | hx | hx
  · exact .inl ⟨x, m.run_setString_of_ok hx⟩
  · exact .inr ⟨_, m.run_setString_of_crashed hx⟩
  · exact .inr ⟨_, m.run_setString_of_crashed hx⟩

theorem run_incrScore_of_fits {set member : String} {delta : Int}
    (h : Signed64.Fits (m.store.getScore set member + delta)) :
    m.run (incrScore set member delta) =
      (.ok (m.store.getScore set member + delta),
        m.putScore set member (m.store.getScore set member + delta)) := by
  show (let (r, s) := m.store.incrScore set member delta; (r, { m with store := s })) = _
  simp only [Store.incrScore, Signed64.add?_of_fits h]
  rfl

theorem run_incrScore_of_not_fits {set member : String} {delta : Int}
    (h : ¬ Signed64.Fits (m.store.getScore set member + delta)) :
    m.run (incrScore set member delta) = (.crashed .addition, m) := by
  have hn : Signed64.add? (m.store.getScore set member) delta = none := if_neg h
  show (let (r, s) := m.store.incrScore set member delta; (r, { m with store := s })) = _
  simp only [Store.incrScore, hn]

/-- Adding to a score writes the sum, or it crashes and changes nothing. -/
theorem serve_incrScore (set member : String) (delta : Int) :
    serve (.store (.incrScore set member delta)) m =
        (.ok (m.store.getScore set member + delta),
          m.putScore set member (m.store.getScore set member + delta)) ∨
      serve (.store (.incrScore set member delta)) m = (.crashed .addition, m) := by
  by_cases hf : Signed64.Fits (m.store.getScore set member + delta)
  · exact .inl (m.run_incrScore_of_fits hf)
  · exact .inr (m.run_incrScore_of_not_fits hf)

theorem run_addSpent_of_fits {user day : String} {seconds : Int}
    (h : Signed64.Fits (m.ledger.spentOn user day + seconds)) :
    m.run (addSpent user day seconds) =
      (.ok (), { m with ledger := (m.ledger.add user day seconds).2 }) := by
  have h1 : (m.ledger.add user day seconds).1 = .ok () := by rw [Ledger.add_of_fits _ _ _ _ h]
  exact Prod.ext h1 rfl

theorem run_addSpent_of_not_fits {user day : String} {seconds : Int}
    (h : ¬ Signed64.Fits (m.ledger.spentOn user day + seconds)) :
    m.run (addSpent user day seconds) = (.crashed .addition, m) := by
  show ((m.ledger.add user day seconds).1,
    { m with ledger := (m.ledger.add user day seconds).2 }) = _
  rw [Ledger.add_of_not_fits _ _ _ _ h]

/-- Adding to the daily statistics writes the sum, or it crashes and changes nothing. -/
theorem serve_addSpent (user day : String) (seconds : Int) :
    serve (.ledger (.add user day seconds)) m =
        (.ok (), { m with ledger := (m.ledger.add user day seconds).2 }) ∧
        (m.ledger.add user day seconds).2.spent user = m.ledger.spent user + seconds ∨
      serve (.ledger (.add user day seconds)) m = (.crashed .addition, m) := by
  by_cases hf : Signed64.Fits (m.ledger.spentOn user day + seconds)
  · have hs := Ledger.spent_add hf user
    rw [if_pos rfl] at hs
    exact .inl ⟨m.run_addSpent_of_fits hf, hs⟩
  · exact .inr (m.run_addSpent_of_not_fits hf)

end Memory

namespace Service

open Operation

variable (s : Service) (user : String) {m : Memory}

/-! ## Alert ranges -/

/-- The alert range of a user in the presence store, if a valid one is there. -/
def cached? (m : Memory) : Option Int :=
  cachedRange? (m.store.getString m.clock.now (s.keys.alertRange user))

/-- The alert range in the profile of a user, else the default one. -/
def chosenRange (m : Memory) : Int :=
  ((m.profiles.get? user).filter fun r => 0 < r).getD s.defaultRange

/-- Stores the alert range of a user and lists the bucket. -/
def cacheRange (m : Memory) (range : Int) : Memory :=
  (m.putString (s.keys.alertRange user) (toString range) none).putScore s.keys.bucketIndex
    (toString range) range

/-- The alert range of a user. -/
def rangeIn (m : Memory) : Int := (s.cached? user m).getD (s.chosenRange user m)

/-- The surroundings after the alert range of a user was asked for. -/
def resolved (m : Memory) : Memory :=
  match s.cached? user m with
  | some _ => m
  | none => s.cacheRange user m (s.chosenRange user m)

theorem run_resolve : m.run (s.resolve user) = (.ok (s.rangeIn user m), s.resolved user m) := by
  unfold resolve rangeIn resolved
  rw [Memory.run_bind_ok (a := m.store.getString m.clock.now (s.keys.alertRange user)) rfl]
  show m.run (match s.cached? user m with
    | some range => pure range
    | none => s.loadRange user) = _
  cases s.cached? user m <;> rfl

/-- Asking for the alert range writes at most the range itself and the index. -/
theorem resolved_eq : s.resolved user m = m ∨
    s.resolved user m = s.cacheRange user m (s.chosenRange user m) := by
  unfold resolved
  cases s.cached? user m with
  | some r => exact .inl rfl
  | none => exact .inr rfl

@[simp]
theorem resolved_clock : (s.resolved user m).clock = m.clock := by
  rcases s.resolved_eq user (m := m) with h | h
  · rw [h]
  · rw [h]
    rfl

@[simp]
theorem resolved_ledger : (s.resolved user m).ledger = m.ledger := by
  rcases s.resolved_eq user (m := m) with h | h
  · rw [h]
  · rw [h]
    rfl

@[simp]
theorem resolved_profiles : (s.resolved user m).profiles = m.profiles := by
  rcases s.resolved_eq user (m := m) with h | h
  · rw [h]
  · rw [h]
    rfl

@[simp]
theorem resolved_metrics : (s.resolved user m).metrics = m.metrics := by
  rcases s.resolved_eq user (m := m) with h | h
  · rw [h]
  · rw [h]
    rfl

/-! ## Sessions -/

theorem run_flush_of_fits {day : String} {seconds : Int}
    (h : Signed64.Fits (m.ledger.spentOn user day + seconds)) :
    m.run (flush user seconds day) = (.ok (), m.addFlush user day seconds) := by
  unfold flush
  rw [Memory.run_bind_ok (Memory.run_addSpent_of_fits h)]
  rfl

theorem run_flush_of_not_fits {day : String} {seconds : Int}
    (h : ¬ Signed64.Fits (m.ledger.spentOn user day + seconds)) :
    m.run (flush user seconds day) = (.crashed .addition, m) := by
  unfold flush
  rw [Memory.run_bind_crashed (Memory.run_addSpent_of_not_fits h)]

/-- The session marker of a user as it is stored. -/
def marker (s : Service) (m : Memory) (user : String) : Option StoredText :=
  m.store.strings.get? (s.keys.sessionMarker user)

theorem marker_putString (m : Memory) (user text : String) (expires : Option Instant) :
    s.marker (m.putString (s.keys.sessionMarker user) text expires) user =
      some ⟨text, expires⟩ := Table.get?_set_self _ _ _

theorem marker_resolved (m : Memory) (u user : String) :
    s.marker (s.resolved u m) user = s.marker m user := by
  rcases s.resolved_eq u (m := m) with h | h
  · rw [h]
  · rw [h]
    exact Table.get?_set_of_ne _ _ (Keys.sessionMarker_ne_alertRange user u)

section Close

variable {set : String} {accrued : Int} {t : Instant}

theorem run_closeSession_of_nonpos (h : accrued ≤ 0) :
    m.run (s.closeSession user set accrued t) = (.ok 0, m.putScore set user 0) := by
  unfold closeSession
  rw [Memory.run_bind_ok (t := m.putScore set user 0) rfl, if_pos h]
  rfl

/-- The accrued time of a session that ends goes to the day of the given instant. -/
theorem run_closeSession_of_pos (h : 0 < accrued)
    (hf : Signed64.Fits (m.ledger.spentOn user (s.session.zone.dayKey t) + accrued)) :
    m.run (s.closeSession user set accrued t) =
      (.ok accrued,
        (m.putScore set user 0).addFlush user (s.session.zone.dayKey t) accrued) := by
  unfold closeSession
  rw [Memory.run_bind_ok (t := m.putScore set user 0) rfl, if_neg (by omega)]
  rw [Memory.run_bind_ok (run_flush_of_fits user (m := m.putScore set user 0) hf)]
  rfl

theorem run_closeSession_of_not_fits (h : 0 < accrued)
    (hf : ¬ Signed64.Fits (m.ledger.spentOn user (s.session.zone.dayKey t) + accrued)) :
    m.run (s.closeSession user set accrued t) =
      (.crashed .addition, m.putScore set user 0) := by
  unfold closeSession
  rw [Memory.run_bind_ok (t := m.putScore set user 0) rfl, if_neg (by omega)]
  rw [Memory.run_bind_crashed (run_flush_of_not_fits user (m := m.putScore set user 0) hf)]

end Close

theorem run_onHeartbeat_of_open {text : String}
    (h : (s.resolved user m).store.getString m.clock.now (s.keys.sessionMarker user) = some text) :
    m.run (s.onHeartbeat user) = (.ok .unchanged, s.resolved user m) := by
  unfold onHeartbeat
  rw [Memory.run_bind_ok (s.run_resolve user)]
  rw [Memory.run_bind_ok (a := some text) (t := s.resolved user m)
    (by rw [← h, ← s.resolved_clock user]; rfl)]
  rfl

theorem run_onHeartbeat_of_empty
    (h : (s.resolved user m).store.getString m.clock.now (s.keys.sessionMarker user) = none)
    (h0 : (s.resolved user m).store.getScore (s.keys.accrualSet (s.rangeIn user m)) user ≤ 0) :
    m.run (s.onHeartbeat user) = (.ok .unchanged, s.resolved user m) := by
  unfold onHeartbeat
  rw [Memory.run_bind_ok (s.run_resolve user)]
  rw [Memory.run_bind_ok (a := none) (t := s.resolved user m)
    (by rw [← h, ← s.resolved_clock user]; rfl)]
  dsimp only
  rw [Memory.run_bind_ok (t := s.resolved user m) rfl, if_pos h0]
  rfl

/-- The first heartbeat after the marker has expired ends the session. -/
theorem run_onHeartbeat_of_expired
    (h : (s.resolved user m).store.getString m.clock.now (s.keys.sessionMarker user) = none)
    (h0 : 0 < (s.resolved user m).store.getScore (s.keys.accrualSet (s.rangeIn user m)) user) :
    m.run (s.onHeartbeat user) =
      let set := s.keys.accrualSet (s.rangeIn user m)
      let closed := (s.resolved user m).run
        (s.closeSession user set ((s.resolved user m).store.getScore set user) m.clock.now)
      (closed.1.map .expired, closed.2) := by
  unfold onHeartbeat
  rw [Memory.run_bind_ok (s.run_resolve user)]
  rw [Memory.run_bind_ok (a := none) (t := s.resolved user m)
    (by rw [← h, ← s.resolved_clock user]; rfl)]
  dsimp only
  -- the marker has expired and there is accrued time, so the session is closed
  rw [Memory.run_bind_ok (t := s.resolved user m) rfl, if_neg (by omega)]
  rw [Memory.run_bind_ok (a := m.clock.now) (t := s.resolved user m)
    (by rw [← s.resolved_clock user]; rfl)]
  rw [Memory.run_map _ fun _ => Accrual.expired _]
  by_cases hf : Signed64.Fits ((s.resolved user m).ledger.spentOn user
      (s.session.zone.dayKey m.clock.now) +
        (s.resolved user m).store.getScore (s.keys.accrualSet (s.rangeIn user m)) user)
  · rw [s.run_closeSession_of_pos user h0 hf]
    rfl
  · rw [s.run_closeSession_of_not_fits user h0 hf]
    rfl

section Judge

variable {set : String} {accrued : Int} {t last : Instant}

theorem run_judge_none :
    m.run (s.judge user set accrued t none) =
      ((m.run (s.closeSession user set accrued t)).1.map .started,
        (m.run (s.closeSession user set accrued t)).2) :=
  Memory.run_map _ _

theorem run_judge_of_gap (h : s.session.gapSeconds ≤ t.secondsSince last) :
    m.run (s.judge user set accrued t (some last)) =
      ((m.run (s.closeSession user set accrued t)).1.map (.restarted (t.secondsSince last)),
        (m.run (s.closeSession user set accrued t)).2) := by
  unfold judge
  rw [← Memory.run_map]
  dsimp only
  rw [if_pos h]

theorem run_judge_of_accrued (h : ¬ s.session.gapSeconds ≤ t.secondsSince last)
    (h0 : 0 < t.secondsSince last) :
    m.run (s.judge user set accrued t (some last)) =
      ((m.run (incrScore set user (t.secondsSince last))).1.map fun _ =>
          .accrued (t.secondsSince last),
        (m.run (incrScore set user (t.secondsSince last))).2) := by
  unfold judge
  rw [← Memory.run_map]
  dsimp only
  rw [if_neg h, if_pos h0]

theorem run_judge_of_no_gap (h : ¬ s.session.gapSeconds ≤ t.secondsSince last)
    (h0 : ¬ 0 < t.secondsSince last) :
    m.run (s.judge user set accrued t (some last)) = (.ok (.accrued 0), m) := by
  unfold judge
  dsimp only
  rw [if_neg h, if_neg h0]
  rfl

end Judge

/-- An activity renews the marker and then judges the session by what was there before. -/
theorem run_onActivity_of_ok {expires : Instant}
    (h : m.clock.now.after (Signed64.ofUnsigned s.session.markerSeconds) = .ok expires) :
    m.run (s.onActivity user) =
      let before := s.resolved user m
      let set := s.keys.accrualSet (s.rangeIn user m)
      let marker := before.store.getString m.clock.now (s.keys.sessionMarker user)
      (before.putString (s.keys.sessionMarker user) (toString m.clock.now.millis)
        (some expires)).run
        (s.judge user set (before.store.getScore set user) m.clock.now (marker.bind marker?)) := by
  unfold onActivity
  rw [Memory.run_bind_ok (a := m.clock.now) (t := m) rfl]
  rw [Memory.run_bind_ok (s.run_resolve user)]
  rw [Memory.run_bind_ok (t := s.resolved user m) rfl]
  rw [Memory.run_bind_ok (a := (s.resolved user m).store.getString m.clock.now
    (s.keys.sessionMarker user)) (t := s.resolved user m) (by rw [← s.resolved_clock user]; rfl)]
  rw [Memory.run_bind_ok (Memory.run_setString_of_ok (m := s.resolved user m)
    (by rw [s.resolved_clock user]; exact h))]

theorem run_onActivity_of_crashed {c : Crash}
    (h : m.clock.now.after (Signed64.ofUnsigned s.session.markerSeconds) = .crashed c) :
    m.run (s.onActivity user) = (.crashed c, s.resolved user m) := by
  unfold onActivity
  rw [Memory.run_bind_ok (a := m.clock.now) (t := m) rfl]
  rw [Memory.run_bind_ok (s.run_resolve user)]
  rw [Memory.run_bind_ok (t := s.resolved user m) rfl]
  rw [Memory.run_bind_ok (a := (s.resolved user m).store.getString m.clock.now
    (s.keys.sessionMarker user)) (t := s.resolved user m) (by rw [← s.resolved_clock user]; rfl)]
  rw [Memory.run_bind_crashed (Memory.run_setString_of_crashed (m := s.resolved user m)
    (by rw [s.resolved_clock user]; exact h))]

/-! ## Changes of the alert range -/

/-- The surroundings after the score of a user was taken out of a bucket. -/
def takenOut (m : Memory) (bucket : Int) : Memory := m.dropMember (s.keys.accrualSet bucket) user

/-- The score of a user in a bucket after the score of another bucket was added to it. -/
def joined (m : Memory) (previous range : Int) : Int :=
  (s.takenOut user m previous).store.getScore (s.keys.accrualSet range) user +
    m.store.getScore (s.keys.accrualSet previous) user

/-- The surroundings after the score of a user was moved from one bucket to another. -/
def moved (m : Memory) (previous range : Int) : Memory :=
  (s.takenOut user m previous).putScore (s.keys.accrualSet range) user (s.joined user m previous range)

theorem run_moveAccrual_of_fits {previous range : Int}
    (h : Signed64.Fits (s.joined user m previous range)) :
    m.run (s.moveAccrual user previous range) = (.ok (), s.moved user m previous range) := by
  unfold moveAccrual
  rw [Memory.run_bind_ok (t := m) rfl]
  rw [Memory.run_bind_ok (t := s.takenOut user m previous) rfl]
  rw [Memory.run_bind_ok (Memory.run_incrScore_of_fits h)]
  rfl

theorem run_moveAccrual_of_not_fits {previous range : Int}
    (h : ¬ Signed64.Fits (s.joined user m previous range)) :
    m.run (s.moveAccrual user previous range) =
      (.crashed .addition, s.takenOut user m previous) := by
  unfold moveAccrual
  rw [Memory.run_bind_ok (t := m) rfl]
  rw [Memory.run_bind_ok (t := s.takenOut user m previous) rfl]
  rw [Memory.run_bind_crashed (Memory.run_incrScore_of_not_fits h)]

section ChangeRange

variable {range : Int}

theorem run_changeRange_of_nonpos (h : range ≤ 0) :
    m.run (s.changeRange user range) = (.failed (.nonPositiveRange range), m) := by
  unfold changeRange
  rw [if_pos h]
  rfl

theorem run_changeRange_of_same (h : 0 < range) (hs : s.rangeIn user m = range) :
    m.run (s.changeRange user range) = (.ok (), s.cacheRange user (s.resolved user m) range) := by
  unfold changeRange
  rw [if_neg (by omega), Memory.run_bind_ok (s.run_resolve user), if_pos hs]
  rfl

theorem run_changeRange_of_fits (h : 0 < range) (hs : s.rangeIn user m ≠ range)
    (hf : Signed64.Fits (s.joined user (s.resolved user m) (s.rangeIn user m) range)) :
    m.run (s.changeRange user range) =
      (.ok (), s.cacheRange user
        (s.moved user (s.resolved user m) (s.rangeIn user m) range) range) := by
  unfold changeRange
  rw [if_neg (by omega), Memory.run_bind_ok (s.run_resolve user), if_neg hs]
  rw [Memory.run_bind_ok (s.run_moveAccrual_of_fits user hf)]
  rfl

theorem run_changeRange_of_not_fits (h : 0 < range) (hs : s.rangeIn user m ≠ range)
    (hf : ¬ Signed64.Fits (s.joined user (s.resolved user m) (s.rangeIn user m) range)) :
    m.run (s.changeRange user range) =
      (.crashed .addition, s.takenOut user (s.resolved user m) (s.rangeIn user m)) := by
  unfold changeRange
  rw [if_neg (by omega), Memory.run_bind_ok (s.run_resolve user), if_neg hs]
  rw [Memory.run_bind_crashed (s.run_moveAccrual_of_not_fits user hf)]

end ChangeRange

/-! ## Queries -/

theorem run_liveAccrual :
    m.run (s.liveAccrual user) =
      (.ok ((s.resolved user m).store.getScore (s.keys.accrualSet (s.rangeIn user m)) user),
        s.resolved user m) := by
  unfold liveAccrual
  rw [Memory.run_bind_ok (s.run_resolve user)]
  rfl

theorem run_knownBuckets :
    m.run s.knownBuckets =
      (.ok (s.bucketsOf (m.store.rangeByScore s.keys.bucketIndex 1 none)), m) := rfl

end Service

end Presence
