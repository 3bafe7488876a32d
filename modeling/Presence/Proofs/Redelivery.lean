import Presence.Proofs.Placement
import Presence.Proofs.Request

/-!
# An event that is delivered twice

The queue may hand out an event again. Whatever the stores hold of a user, a marker that cannot be
read, a marker of the future, a negative score or a text that is no alert range, the first delivery
leaves the marker of the present, or no accrued time, and a range that can be read
(`Service.Renewed`). Main statement: `Service.redelivery_harmless`, an event ends with a value
exactly if the sum that it forms fits into 64 bits, and then the same event at the same instant
changes nothing at all.
-/

set_option autoImplicit false

namespace Presence

open Operation

namespace Table

variable {κ β : Type} [Ord κ] [Std.LawfulEqOrd κ] [Std.TransOrd κ]

/-- Writing what is there changes nothing. -/
theorem set_eq_self {t : Table κ β} {k : κ} {v : β} (h : t.get? k = some v) : t.set k v = t := by
  refine ext_get? fun k' => ?_
  by_cases hk : k' = k
  · rw [hk, get?_set_self, h]
  · exact get?_set_of_ne _ _ hk

end Table

/-- A lifetime that ends inside the calendar is added as it is. -/
theorem Instant.after_of_millis {t t' : Instant} {n : Nat}
    (h : t'.millis = t.millis + 1000 * n) : t.after (Signed64.ofUnsigned n) = .ok t' := by
  have h1 := t.inRange
  have h2 := t'.inRange
  have hn : Signed64.ofUnsigned n = n := if_pos (by simp only [Signed64.greatest]; omega)
  unfold Instant.after
  rw [hn, if_pos (by simp only [Instant.longestSpan]; omega), Instant.ofMillis?_eq_some.2 h]
  rfl

namespace Service

variable (s : Service) (user : String) {m m' : Memory}

/-! ## The sums that an event forms -/

/-- Accrued time can be added to the seconds of a day: there is none, or the sum fits into 64
bits. -/
def FlushFits (accrued spent : Int) : Prop := 0 < accrued → Signed64.Fits (spent + accrued)

/-- The sum that an activity forms fits into 64 bits: that of the accrued time and the gap if the
session goes on, else that of the seconds of the day and the accrued time. -/
def SumFits (accrued spent : Int) (time : Instant) : Option Instant → Prop
  | none => FlushFits accrued spent
  | some last =>
    if s.session.gapSeconds ≤ time.secondsSince last then FlushFits accrued spent
    else 0 < time.secondsSince last → Signed64.Fits (accrued + time.secondsSince last)

instance (accrued spent : Int) : Decidable (FlushFits accrued spent) :=
  inferInstanceAs (Decidable (0 < accrued → _))

instance (accrued spent : Int) (time : Instant) (seen : Option Instant) :
    Decidable (s.SumFits accrued spent time seen) :=
  match seen with
  | none => inferInstanceAs (Decidable (FlushFits accrued spent))
  | some last => inferInstanceAs (Decidable (if _ ≤ time.secondsSince last then _ else _ → _))

/-- The instant of the last activity of a user, if the presence store tells it. -/
def lastSeen? (m : Memory) : Option Instant :=
  (m.store.getString m.clock.now (s.keys.sessionMarker user)).bind marker?

/-- The accrued time of a user in the bucket in which the user is. -/
def openSeconds (m : Memory) : Int :=
  m.store.getScore (s.keys.accrualSet (s.rangeIn user m)) user

/-- The seconds of a user on the day that it is. -/
def spentToday (m : Memory) : Int :=
  m.ledger.spentOn user (s.session.zone.dayKey m.clock.now)

/-- The sum that an activity of a user would form now fits into 64 bits. -/
def ActivityFits (m : Memory) : Prop :=
  s.SumFits (s.openSeconds user m) (s.spentToday user m) m.clock.now (s.lastSeen? user m)

instance (m : Memory) : Decidable (s.ActivityFits user m) :=
  inferInstanceAs (Decidable (s.SumFits _ _ _ _))

/-- The sum that a heartbeat of a user would form now fits into 64 bits. -/
def HeartbeatFits (m : Memory) : Prop :=
  m.store.getString m.clock.now (s.keys.sessionMarker user) = none →
    FlushFits (s.openSeconds user m) (s.spentToday user m)

instance (m : Memory) : Decidable (s.HeartbeatFits user m) :=
  inferInstanceAs (Decidable (_ → FlushFits _ _))

/-! ## What the first delivery leaves -/

theorem cached?_of_strings (hs : m'.store.strings = m.store.strings) (hc : m'.clock = m.clock) :
    s.cached? user m' = s.cached? user m := by
  simp only [cached?, Store.getString, hs, hc]

/-- After the alert range was asked for it can be read. -/
theorem cached?_resolved (hr : s.RangesFit m) :
    s.cached? user (s.resolved user m) = some (s.rangeIn user m) := by
  unfold resolved rangeIn
  cases h : s.cached? user m with
  | some r => exact h
  | none =>
      obtain ⟨hpos, hfits⟩ := hr.chosenRange user
      have htext : (s.cacheRange user m (s.chosenRange user m)).store.getString m.clock.now
          (s.keys.alertRange user) = some (toString (s.chosenRange user m)) := by
        simp [Store.getString, cacheRange, Memory.putScore, Memory.putString, Store.setScore,
          Store.StoredText.isAlive, Option.filter]
      exact (congrArg cachedRange? htext).trans (cachedRange?_toString hpos hfits)

variable {s user}

/-- A range that can be read is the range of the user, and asking for it changes nothing. -/
theorem resolved_of_cached {r : Int} (h : s.cached? user m = some r) :
    s.resolved user m = m ∧ s.rangeIn user m = r := by
  simp only [resolved, rangeIn, h, Option.getD_some, and_self]

theorem getString_marker_resolved :
    (s.resolved user m).store.getString m.clock.now (s.keys.sessionMarker user) =
      m.store.getString m.clock.now (s.keys.sessionMarker user) := by
  have h : (s.resolved user m).store.strings.get? (s.keys.sessionMarker user) =
      m.store.strings.get? (s.keys.sessionMarker user) := s.marker_resolved m user user
  simp only [Store.getString, h]

theorem getScore_resolved_openSeconds :
    (s.resolved user m).store.getScore (s.keys.accrualSet (s.rangeIn user m)) user =
      s.openSeconds user m := s.getScore_resolved m user user _

theorem spentOn_resolved :
    (s.resolved user m).ledger.spentOn user (s.session.zone.dayKey m.clock.now) =
      s.spentToday user m := by
  rw [s.resolved_ledger user]
  rfl

/-- A session is closed if the sum of the day fits: the accrued time is gone, and nothing else has
changed in the presence store. -/
theorem closeSession_ends (set : String) {accrued : Int} {t : Instant}
    (h : FlushFits accrued (m.ledger.spentOn user (s.session.zone.dayKey t))) :
    ∃ n m', m.run (s.closeSession user set accrued t) = (.ok n, m') ∧
      m'.store = m.store.setScore set user 0 ∧ m'.clock = m.clock := by
  by_cases hpos : 0 < accrued
  · exact ⟨_, _, s.run_closeSession_of_pos user hpos (h hpos), rfl, rfl⟩
  · exact ⟨_, _, s.run_closeSession_of_nonpos user (Int.not_lt.1 hpos), rfl, rfl⟩

theorem closeSession_crashes (set : String) {accrued : Int} {t : Instant}
    (h : ¬ FlushFits accrued (m.ledger.spentOn user (s.session.zone.dayKey t))) :
    (m.run (s.closeSession user set accrued t)).1 = .crashed .addition := by
  obtain ⟨hpos, hfits⟩ := Classical.not_imp.1 h
  rw [s.run_closeSession_of_not_fits user hpos hfits]

/-- An activity is judged if its sum fits, and no text of the presence store changes. -/
theorem judge_ends {set : String} {t : Instant} {seen : Option Instant}
    (h : s.SumFits (m.store.getScore set user) (m.ledger.spentOn user (s.session.zone.dayKey t)) t
      seen) :
    ∃ a m', m.run (s.judge user set (m.store.getScore set user) t seen) = (.ok a, m') ∧
      m'.store.strings = m.store.strings ∧ m'.clock = m.clock := by
  cases seen with
  | none =>
      obtain ⟨n, m', hrun, hstore, hclock⟩ := closeSession_ends set h
      exact ⟨_, m', by rw [s.run_judge_none user, hrun]; rfl, by rw [hstore]; rfl, hclock⟩
  | some last =>
      by_cases hgap : s.session.gapSeconds ≤ t.secondsSince last
      · rw [SumFits, if_pos hgap] at h
        obtain ⟨n, m', hrun, hstore, hclock⟩ := closeSession_ends set h
        exact ⟨_, m', by rw [s.run_judge_of_gap user hgap, hrun]; rfl, by rw [hstore]; rfl, hclock⟩
      · rw [SumFits, if_neg hgap] at h
        by_cases hpos : 0 < t.secondsSince last
        · refine ⟨.accrued (t.secondsSince last),
            m.putScore set user (m.store.getScore set user + t.secondsSince last), ?_, rfl, rfl⟩
          rw [s.run_judge_of_accrued user hgap hpos, Memory.run_incrScore_of_fits (h hpos)]
          rfl
        · exact ⟨_, m, s.run_judge_of_no_gap user hgap hpos, rfl, rfl⟩

theorem judge_crashes {set : String} {t : Instant} {seen : Option Instant}
    (h : ¬ s.SumFits (m.store.getScore set user) (m.ledger.spentOn user (s.session.zone.dayKey t)) t
      seen) :
    (m.run (s.judge user set (m.store.getScore set user) t seen)).1 = .crashed .addition := by
  cases seen with
  | none =>
      rw [s.run_judge_none user]
      exact congrArg (Outcome.map Accrual.started) (closeSession_crashes set h)
  | some last =>
      by_cases hgap : s.session.gapSeconds ≤ t.secondsSince last
      · rw [SumFits, if_pos hgap] at h
        rw [s.run_judge_of_gap user hgap]
        exact congrArg (Outcome.map _) (closeSession_crashes set h)
      · rw [SumFits, if_neg hgap] at h
        obtain ⟨hpos, hfits⟩ := Classical.not_imp.1 h
        rw [s.run_judge_of_accrued user hgap hpos, Memory.run_incrScore_of_not_fits hfits]
        rfl

/-! ## Activities -/

/-- The presence store holds the alert range of a user and the marker of the present. -/
structure Renewed (s : Service) (user : String) (m : Memory) : Prop where
  cached : ∃ r, s.cached? user m = some r
  marker : ∃ expires : Instant,
    expires.millis = m.clock.now.millis + 1000 * s.session.markerSeconds ∧
      s.marker m user = some ⟨toString m.clock.now.millis, some expires⟩

/-- After the marker of the present an activity changes nothing. -/
theorem Renewed.run_onActivity (h : s.Renewed user m) (hgap : 0 < s.session.gapSeconds) :
    m.run (s.onActivity user) = (.ok (.accrued 0), m) := by
  obtain ⟨r, hcached⟩ := h.cached
  obtain ⟨expires, hexpires, hmarker⟩ := h.marker
  obtain ⟨hresolved, -⟩ := resolved_of_cached hcached
  have hseen : s.lastSeen? user m = some m.clock.now := by
    have halive : m.clock.now ≤ expires := by
      show m.clock.now.millis ≤ expires.millis
      omega
    have htext : m.store.getString m.clock.now (s.keys.sessionMarker user) =
        some (toString m.clock.now.millis) := by
      unfold Store.getString
      rw [show m.store.strings.get? (s.keys.sessionMarker user) = _ from hmarker]
      simp [Store.StoredText.isAlive, halive, Option.filter]
    rw [lastSeen?, htext]
    exact marker?_toString m.clock.now
  -- the gap between an instant and itself is no gap
  have hzero : m.clock.now.secondsSince m.clock.now = 0 := by simp [Instant.secondsSince]
  have hsame : m.putString (s.keys.sessionMarker user) (toString m.clock.now.millis)
      (some expires) = m := by
    unfold Memory.putString
    rw [Table.set_eq_self hmarker]
  rw [s.run_onActivity_of_ok user (Instant.after_of_millis hexpires), hresolved]
  dsimp only
  -- the marker is written once more as it is
  rw [hsame]
  change m.run (s.judge user _ _ _ (s.lastSeen? user m)) = _
  rw [hseen]
  exact s.run_judge_of_no_gap user (by omega) (by omega)

/-- The surroundings of a user after the alert range was asked for and the marker was renewed. -/
def remarked (s : Service) (user : String) (m : Memory) (expires : Instant) : Memory :=
  (s.resolved user m).putString (s.keys.sessionMarker user) (toString m.clock.now.millis)
    (some expires)

theorem renewed_remarked (hr : s.RangesFit m) {expires : Instant}
    (h : expires.millis = m.clock.now.millis + 1000 * s.session.markerSeconds) :
    s.Renewed user (s.remarked user m expires) where
  cached := by
    refine ⟨s.rangeIn user m, Eq.trans ?_ (s.cached?_resolved user hr)⟩
    -- the marker is no alert range
    have hother : (s.remarked user m expires).store.strings.get? (s.keys.alertRange user) =
        (s.resolved user m).store.strings.get? (s.keys.alertRange user) :=
      Table.get?_set_of_ne _ _ (Keys.sessionMarker_ne_alertRange user user).symm
    simp only [cached?, Store.getString, hother]
    rfl
  marker := by
    have hclock : (s.remarked user m expires).clock = m.clock := s.resolved_clock user
    rw [hclock]
    exact ⟨expires, h, s.marker_putString _ user _ _⟩

theorem Renewed.of_strings (h : s.Renewed user m) (hs : m'.store.strings = m.store.strings)
    (hc : m'.clock = m.clock) : s.Renewed user m' where
  cached := by
    rw [s.cached?_of_strings user hs hc]
    exact h.cached
  marker := by
    simp only [Service.marker, hs, hc]
    exact h.marker

/-- An activity renews the marker and judges the session by the instant of the last activity. -/
theorem run_onActivity {expires : Instant}
    (h : expires.millis = m.clock.now.millis + 1000 * s.session.markerSeconds) :
    m.run (s.onActivity user) = (s.remarked user m expires).run
      (s.judge user (s.keys.accrualSet (s.rangeIn user m))
        ((s.remarked user m expires).store.getScore (s.keys.accrualSet (s.rangeIn user m)) user)
        m.clock.now (s.lastSeen? user m)) := by
  rw [s.run_onActivity_of_ok user (Instant.after_of_millis h), lastSeen?,
    ← getString_marker_resolved]
  rfl

theorem sumFits_remarked_iff {expires : Instant} :
    s.SumFits ((s.remarked user m expires).store.getScore (s.keys.accrualSet (s.rangeIn user m)) user)
        ((s.remarked user m expires).ledger.spentOn user (s.session.zone.dayKey m.clock.now))
        m.clock.now (s.lastSeen? user m) ↔
      s.ActivityFits user m := by
  -- the marker is neither a score nor a record
  have hscore : (s.remarked user m expires).store.getScore
      (s.keys.accrualSet (s.rangeIn user m)) user = s.openSeconds user m :=
    getScore_resolved_openSeconds
  have hspent : (s.remarked user m expires).ledger.spentOn user
      (s.session.zone.dayKey m.clock.now) = s.spentToday user m := spentOn_resolved
  rw [hscore, hspent]
  exact Iff.rfl

/-- An activity whose sum fits ends with a value and leaves the marker of the present. -/
theorem ActivityFits.run_onActivity (hfits : s.ActivityFits user m) (hr : s.RangesFit m)
    {expires : Instant}
    (h : expires.millis = m.clock.now.millis + 1000 * s.session.markerSeconds) :
    ∃ a m', m.run (s.onActivity user) = (.ok a, m') ∧ s.Renewed user m' := by
  obtain ⟨a, m', hrun, hstrings, hclock⟩ := judge_ends (sumFits_remarked_iff.2 hfits)
  exact ⟨a, m', (Service.run_onActivity h).trans hrun,
    (renewed_remarked hr h).of_strings hstrings hclock⟩

/-- An activity whose sum does not fit crashes. -/
theorem run_onActivity_of_not_fits (hfits : ¬ s.ActivityFits user m) {expires : Instant}
    (h : expires.millis = m.clock.now.millis + 1000 * s.session.markerSeconds) :
    (m.run (s.onActivity user)).1 = .crashed .addition := by
  rw [Service.run_onActivity h]
  exact judge_crashes (mt sumFits_remarked_iff.1 hfits)

/-! ## Heartbeats -/

/-- A heartbeat has nothing to do: there is a marker, or no accrued time. -/
structure Quiet (s : Service) (user : String) (m : Memory) : Prop where
  cached : ∃ r, s.cached? user m = some r
  idle : m.store.getString m.clock.now (s.keys.sessionMarker user) = none →
    s.openSeconds user m ≤ 0

/-- With nothing to do a heartbeat changes nothing. -/
theorem Quiet.run_onHeartbeat (h : s.Quiet user m) :
    m.run (s.onHeartbeat user) = (.ok .unchanged, m) := by
  obtain ⟨r, hcached⟩ := h.cached
  obtain ⟨hresolved, -⟩ := resolved_of_cached hcached
  cases hmarker : m.store.getString m.clock.now (s.keys.sessionMarker user) with
  | some text =>
      rw [s.run_onHeartbeat_of_open user (by rw [hresolved, hmarker]), hresolved]
  | none =>
      have hidle : s.openSeconds user m ≤ 0 := h.idle hmarker
      rw [s.run_onHeartbeat_of_empty user (by rw [hresolved, hmarker])
        (by rw [hresolved]; exact hidle), hresolved]

/-- Asking for the alert range leaves nothing to do if there was nothing to do. -/
theorem quiet_resolved (hr : s.RangesFit m)
    (h : m.store.getString m.clock.now (s.keys.sessionMarker user) = none →
      s.openSeconds user m ≤ 0) :
    s.Quiet user (s.resolved user m) where
  cached := ⟨_, s.cached?_resolved user hr⟩
  idle := by
    obtain ⟨-, hrange⟩ := resolved_of_cached (s.cached?_resolved user hr)
    rw [s.resolved_clock user, getString_marker_resolved, openSeconds, hrange,
      getScore_resolved_openSeconds]
    exact h

/-- After the session was closed there is no accrued time. -/
theorem quiet_of_closed (hr : s.RangesFit m)
    (hstore : m'.store = (s.resolved user m).store.setScore
      (s.keys.accrualSet (s.rangeIn user m)) user 0)
    (hclock : m'.clock = (s.resolved user m).clock) : s.Quiet user m' := by
  have hcached : s.cached? user m' = some (s.rangeIn user m) := by
    rw [s.cached?_of_strings user (by rw [hstore]; rfl) hclock]
    exact s.cached?_resolved user hr
  refine ⟨⟨_, hcached⟩, fun _ => ?_⟩
  obtain ⟨-, hrange⟩ := resolved_of_cached hcached
  rw [openSeconds, hrange, hstore, Store.getScore_setScore, if_pos ⟨rfl, rfl⟩]

/-- A heartbeat that finds accrued time and no marker closes the session. -/
theorem run_onHeartbeat
    (hmarker : m.store.getString m.clock.now (s.keys.sessionMarker user) = none)
    (hpos : 0 < s.openSeconds user m) :
    m.run (s.onHeartbeat user) =
      let closed := (s.resolved user m).run (s.closeSession user
        (s.keys.accrualSet (s.rangeIn user m)) (s.openSeconds user m) m.clock.now)
      (closed.1.map .expired, closed.2) := by
  rw [s.run_onHeartbeat_of_expired user (getString_marker_resolved.trans hmarker)
    (getScore_resolved_openSeconds.symm ▸ hpos)]
  dsimp only
  rw [getScore_resolved_openSeconds]

/-- A heartbeat whose sum fits ends with a value and leaves nothing to do. -/
theorem HeartbeatFits.run_onHeartbeat (hfits : s.HeartbeatFits user m) (hr : s.RangesFit m) :
    ∃ a m', m.run (s.onHeartbeat user) = (.ok a, m') ∧ s.Quiet user m' := by
  cases hmarker : m.store.getString m.clock.now (s.keys.sessionMarker user) with
  | some text =>
      refine ⟨_, _, s.run_onHeartbeat_of_open user (getString_marker_resolved.trans hmarker),
        quiet_resolved hr fun e => ?_⟩
      cases hmarker.symm.trans e
  | none =>
      -- without a marker the session is closed if there is accrued time
      by_cases hpos : 0 < s.openSeconds user m
      · obtain ⟨n, m', hrun, hstore, hclock⟩ := closeSession_ends
          (s.keys.accrualSet (s.rangeIn user m)) (spentOn_resolved.symm ▸ hfits hmarker)
        refine ⟨.expired n, m', ?_, quiet_of_closed hr hstore hclock⟩
        rw [Service.run_onHeartbeat hmarker hpos, hrun]
        rfl
      · have hidle : s.openSeconds user m ≤ 0 := Int.not_lt.1 hpos
        exact ⟨_, _, s.run_onHeartbeat_of_empty user (getString_marker_resolved.trans hmarker)
          (getScore_resolved_openSeconds.symm ▸ hidle), quiet_resolved hr fun _ => hidle⟩

/-- A heartbeat whose sum does not fit crashes. -/
theorem run_onHeartbeat_of_not_fits (hfits : ¬ s.HeartbeatFits user m) :
    (m.run (s.onHeartbeat user)).1 = .crashed .addition := by
  obtain ⟨hmarker, hflush⟩ := Classical.not_imp.1 hfits
  have hpos : 0 < s.openSeconds user m := (Classical.not_imp.1 hflush).1
  rw [run_onHeartbeat hmarker hpos]
  exact congrArg (Outcome.map Accrual.expired)
    (closeSession_crashes _ (spentOn_resolved.symm ▸ hflush))

/-! ## Redelivery -/

/-- Whatever the stores hold, an event ends with a value exactly if the sum that it forms fits into
64 bits, and then the same event at the same instant changes nothing: an activity finds a gap of no
seconds, and a heartbeat finds nothing to do. -/
theorem redelivery_harmless (s : Service) (user : String) (m : Memory)
    (hgap : 0 < s.session.gapSeconds) (hr : s.RangesFit m)
    (hdate : ∃ t : Instant, t.millis = m.clock.now.millis + 1000 * s.session.markerSeconds) :
    (s.ActivityFits user m ↔ ∃ a m', m.run (s.onActivity user) = (.ok a, m') ∧
      m'.run (s.onActivity user) = (.ok (.accrued 0), m')) ∧
    (s.HeartbeatFits user m ↔ ∃ a m', m.run (s.onHeartbeat user) = (.ok a, m') ∧
      m'.run (s.onHeartbeat user) = (.ok .unchanged, m')) := by
  obtain ⟨expires, hexpires⟩ := hdate
  constructor
  · constructor
    · intro hfits
      obtain ⟨a, m', hrun, hrenewed⟩ := hfits.run_onActivity hr hexpires
      exact ⟨a, m', hrun, hrenewed.run_onActivity hgap⟩
    · rintro ⟨a, m', hrun, -⟩
      by_contra hfits
      have hcrash := run_onActivity_of_not_fits hfits hexpires
      rw [hrun] at hcrash
      cases hcrash
  · constructor
    · intro hfits
      obtain ⟨a, m', hrun, hquiet⟩ := hfits.run_onHeartbeat hr
      exact ⟨a, m', hrun, hquiet.run_onHeartbeat⟩
    · rintro ⟨a, m', hrun, -⟩
      by_contra hfits
      have hcrash := run_onHeartbeat_of_not_fits hfits
      rw [hrun] at hcrash
      cases hcrash

/-- A marker and an alert range that cannot be read, and accrued time in the default bucket. -/
def spoiled : Memory :=
  (((Memory.fresh Clock.noon).putString "last_online:ada" "yesterday" none).putString
    "user_alert_range:ada" "often" none).putScore "online_users:5" "ada" 30

/-- What cannot be read is replaced by the first delivery, and the second one changes nothing. -/
theorem redelivery_harmless_spoiled :
    0 < standard.session.gapSeconds ∧ standard.RangesFit spoiled ∧
      (∃ t : Instant, t.millis =
        spoiled.clock.now.millis + 1000 * standard.session.markerSeconds) ∧
      (∃ a m', spoiled.run (standard.onActivity "ada") = (.ok a, m') ∧
        m'.run (standard.onActivity "ada") = (.ok (.accrued 0), m')) ∧
      ∃ a m', spoiled.run (standard.onHeartbeat "ada") = (.ok a, m') ∧
        m'.run (standard.onHeartbeat "ada") = (.ok .unchanged, m') := by
  have hgap : 0 < standard.session.gapSeconds := by decide
  have hr : standard.RangesFit spoiled := ⟨by decide, by decide, fun _ _ h => nomatch h⟩
  have hdate : ∃ t : Instant, t.millis =
      spoiled.clock.now.millis + 1000 * standard.session.markerSeconds :=
    ⟨⟨1792324860000, by decide⟩, by decide⟩
  obtain ⟨hactivity, hheartbeat⟩ := redelivery_harmless standard "ada" spoiled hgap hr hdate
  exact ⟨hgap, hr, hdate, hactivity.1 (by decide +kernel), hheartbeat.1 (by decide +kernel)⟩

end Service

end Presence
