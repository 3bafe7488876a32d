import Presence.Proofs.Placement
import Presence.Proofs.Request
import Presence.Proofs.Segmentation

/-!
# Operations against the sessions of a list of events

The events of one user, served one after another from empty stores, have the effect that the cut
into sessions describes. `Service.Represents` ties the stores to the tally of the events so far.
Main statement: `Service.refines_sessions`, the accrued time is that of the last session, and the
daily statistics hold every session that is over under the day of the event that ends it.
-/

set_option autoImplicit false

namespace Presence

/-- What happens when an event of a user arrives. -/
def TimedEvent.happenings (user : String) (e : TimedEvent) : List Happening :=
  [.clock e.time, .request (match e.kind with
    | .activity => .activity user
    | .heartbeat => .heartbeat user)]

namespace SessionPolicy

/-- The seconds that are written to a day. -/
def secondsOn (p : SessionPolicy) (day : String) (ws : List (Instant × Int)) : Int :=
  ((ws.filter fun w => p.zone.dayKey w.1 = day).map (·.2)).sum

/-- The record of a day, if anything is written to it. -/
def recordOn (p : SessionPolicy) (user day : String) (ws : List (Instant × Int)) :
    Option DailyStatistic :=
  if ws.any fun w => p.zone.dayKey w.1 = day then some ⟨user, day, p.secondsOn day ws, 0⟩ else none

theorem secondsOn_le (p : SessionPolicy) (day : String) {ws : List (Instant × Int)}
    (h : ∀ w ∈ ws, 0 < w.2) :
    0 ≤ p.secondsOn day ws ∧ p.secondsOn day ws ≤ (ws.map (·.2)).sum := by
  unfold secondsOn
  induction ws with
  | nil => exact ⟨Int.le_refl 0, Int.le_refl 0⟩
  | cons w ws ih =>
      obtain ⟨h1, h2⟩ := ih fun v hv => h v (List.mem_cons_of_mem _ hv)
      have hw := h w List.mem_cons_self
      -- each entry counts for its own day only
      by_cases hd : p.zone.dayKey w.1 = day
      · simp only [List.filter_cons, hd, decide_true, if_true, List.map_cons, List.sum_cons]
        omega
      · simp only [List.filter_cons, hd, decide_false, Bool.false_eq_true, if_false, List.map_cons,
          List.sum_cons]
        omega

theorem secondsOn_concat (p : SessionPolicy) (day : String) (ws : List (Instant × Int))
    (t : Instant) (n : Int) :
    p.secondsOn day (ws ++ [(t, n)]) =
      p.secondsOn day ws + if p.zone.dayKey t = day then n else 0 := by
  unfold secondsOn
  rw [List.filter_append, List.map_append, List.sum_append]
  by_cases hd : p.zone.dayKey t = day
  · simp [hd]
  · simp [hd]

end SessionPolicy

namespace Service

variable {s : Service} {m m' : Memory} {user : String} {ws : List (Instant × Int)} {r : Int}

/-! ## The daily statistics -/

/-- The daily statistics hold what is to be written for a user, and nothing else. -/
structure Written (s : Service) (user : String) (ws : List (Instant × Int)) (m : Memory) :
    Prop where
  record : ∀ v day, m.ledger.find v day =
    if v = user then s.session.recordOn user day ws else none
  counted : m.metrics.sessionsFlushed = ws.length % 18446744073709551616

theorem Written.spentOn (h : s.Written user ws m) (day : String) :
    m.ledger.spentOn user day = s.session.secondsOn day ws := by
  unfold Ledger.spentOn
  rw [h.record user day, if_pos rfl]
  unfold SessionPolicy.recordOn
  split
  · rfl
  · rename_i hn
    have he : ws.filter (fun w => s.session.zone.dayKey w.1 = day) = [] := by
      refine List.filter_eq_nil_iff.2 fun w hw hd => hn ?_
      exact List.any_eq_true.2 ⟨w, hw, hd⟩
    unfold SessionPolicy.secondsOn
    rw [he]
    rfl

theorem Written.addFlush (h : s.Written user ws m) {t : Instant} {n : Int}
    (hf : Signed64.Fits (m.ledger.spentOn user (s.session.zone.dayKey t) + n)) :
    s.Written user (ws ++ [(t, n)]) (m.addFlush user (s.session.zone.dayKey t) n) := by
  constructor
  · intro v day
    show (m.ledger.add user (s.session.zone.dayKey t) n).2.find v day = _
    rw [Ledger.find_add hf]
    by_cases hv : v = user
    · subst hv
      simp only [true_and, if_true]
      by_cases hd : day = s.session.zone.dayKey t
      · subst hd
        have hr := h.record v (s.session.zone.dayKey t)
        rw [if_pos rfl] at hr
        rw [if_pos rfl, h.spentOn, hr]
        have ha : ((ws ++ [(t, n)]).any fun w =>
            decide (s.session.zone.dayKey w.1 = s.session.zone.dayKey t)) = true := by simp
        unfold SessionPolicy.recordOn
        rw [if_pos ha, SessionPolicy.secondsOn_concat, if_pos rfl]
        -- the record is there already, or it is made
        split <;> rfl
      · rw [if_neg hd, h.record v day, if_pos rfl]
        have hd' : s.session.zone.dayKey t ≠ day := fun e => hd e.symm
        unfold SessionPolicy.recordOn
        simp only [List.any_append, List.any_cons, hd', decide_false, List.any_nil, Bool.or_false,
          SessionPolicy.secondsOn_concat, if_false, Int.add_zero]
    · rw [if_neg fun e => hv e.1, if_neg hv, h.record v day, if_neg hv]
  · have hm : (m.addFlush user (s.session.zone.dayKey t) n).metrics.sessionsFlushed =
        (m.metrics.sessionsFlushed + 1) % 18446744073709551616 := rfl
    rw [hm, h.counted, List.length_append, List.length_singleton]
    omega

/-- Ending a session writes its seconds, if there are any, and resets the score. -/
theorem closeSession_written (h : s.Written user ws m) {n : Int} (h0 : 0 ≤ n)
    (hpos : ∀ w ∈ ws, 0 < w.2) (hle : n + (ws.map (·.2)).sum ≤ Signed64.greatest) (set : String)
    (t : Instant) :
    ∃ m', m.run (s.closeSession user set n t) = (.ok n, m') ∧
      s.Written user (ws ++ positive t n) m' ∧ m'.store = m.store.setScore set user 0 ∧
      m'.profiles = m.profiles := by
  by_cases hn : n ≤ 0
  · -- nothing to write
    have e : n = 0 := by omega
    subst e
    refine ⟨m.putScore set user 0, s.run_closeSession_of_nonpos user hn, ?_, rfl, rfl⟩
    rw [show positive t 0 = [] from rfl, List.append_nil]
    exact ⟨h.record, h.counted⟩
  · have hb := s.session.secondsOn_le (s.session.zone.dayKey t) hpos
    -- the seconds of one day are among all that were written
    have hf : Signed64.Fits (m.ledger.spentOn user (s.session.zone.dayKey t) + n) := by
      rw [h.spentOn]
      unfold Signed64.Fits Signed64.least
      omega
    refine ⟨_, s.run_closeSession_of_pos user (by omega) hf, ?_, rfl, rfl⟩
    have hp : positive t n = [(t, n)] := by
      simp [positive, show 0 < n by omega]
    rw [hp]
    exact Written.addFlush (m := m.putScore set user 0) ⟨h.record, h.counted⟩ hf

/-! ## The bucket of a user whose profile does not change -/

theorem filter_some_cases (f : Int → Bool) (r : Int) :
    (some r).filter f = none ∨ (some r).filter f = some r := by
  rw [Option.filter_some]
  split
  · exact .inr rfl
  · exact .inl rfl

theorem cachedRange?_toString_cases (r : Int) :
    cachedRange? (some (toString r)) = none ∨ cachedRange? (some (toString r)) = some r := by
  unfold cachedRange? Text.readSigned64? Text.readInt?
  rw [Option.bind_some, Text.trim_toString, Text.signed?_toString]
  rcases filter_some_cases (fun n => Signed64.least ≤ n && n ≤ Signed64.greatest) r with h | h
  · rw [h]
    exact .inl rfl
  · rw [h]
    exact filter_some_cases _ r

/-- Asking for the alert range of a user yields a bucket, now and from now on. -/
structure KeepsBucket (s : Service) (user : String) (r : Int) (m : Memory) : Prop where
  stored : s.rangeText? m user = none ∨ s.rangeText? m user = some ⟨toString r, none⟩
  chosen : s.chosenRange user m = r

namespace KeepsBucket

theorem rangeIn_eq (h : s.KeepsBucket user r m) : s.rangeIn user m = r := by
  unfold rangeIn
  rcases h.stored with ht | ht
  · rw [cached?_of_rangeText?_none ht, Option.getD_none, h.chosen]
  · have hc : s.cached? user m = cachedRange? (some (toString r)) := by
      unfold cached? Store.getString
      rw [show m.store.strings.get? (s.keys.alertRange user) = _ from ht]
      rfl
    rw [hc]
    -- a stored range that does not fit is asked for in the profile again, which has not changed
    rcases cachedRange?_toString_cases r with hr | hr
    · rw [hr, Option.getD_none, h.chosen]
    · rw [hr, Option.getD_some]

theorem resolved (h : s.KeepsBucket user r m) : s.KeepsBucket user r (s.resolved user m) := by
  refine ⟨?_, ?_⟩
  · rcases s.resolved_eq user (m := m) with he | he
    · rw [he]
      exact h.stored
    · rw [he, h.chosen, rangeText?_cacheRange, if_pos rfl]
      exact .inr rfl
  · have hc := h.chosen
    unfold Service.chosenRange at hc ⊢
    rw [s.resolved_profiles]
    exact hc

/-- Scores and markers do not matter. -/
theorem of_eq (h : s.KeepsBucket user r m) (ht : s.rangeText? m' user = s.rangeText? m user)
    (hp : m'.profiles = m.profiles) : s.KeepsBucket user r m' := by
  refine ⟨by rw [ht]; exact h.stored, ?_⟩
  have hc := h.chosen
  unfold Service.chosenRange at hc ⊢
  rw [hp]
  exact hc

end KeepsBucket

/-! ## The marker -/

/-- The marker names the last activity, and can be read for the lifetime of a marker. -/
structure Marks (s : Service) (user : String) (a : Instant) (m : Memory) : Prop where
  exists_marker : ∃ x : Instant, s.marker m user = some ⟨toString a.millis, some x⟩ ∧
    x.millis = a.millis + 1000 * s.session.markerSeconds

theorem Marks.getString_of_le {a t : Instant} (h : s.Marks user a m)
    (ht : t.millis - a.millis ≤ s.session.markerSeconds * 1000) :
    m.store.getString t (s.keys.sessionMarker user) = some (toString a.millis) := by
  obtain ⟨x, hm, hx⟩ := h.exists_marker
  unfold Store.getString
  rw [show m.store.strings.get? (s.keys.sessionMarker user) = _ from hm]
  -- the marker lasts up to its last instant
  have hl : decide (t ≤ x) = true := decide_eq_true (show t.millis ≤ x.millis by omega)
  simp only [Option.filter, Store.StoredText.isAlive, hl, if_true, Option.map_some]

theorem Marks.getString_of_lt {a t : Instant} (h : s.Marks user a m)
    (ht : s.session.markerSeconds * 1000 < t.millis - a.millis) :
    m.store.getString t (s.keys.sessionMarker user) = none := by
  obtain ⟨x, hm, hx⟩ := h.exists_marker
  unfold Store.getString
  rw [show m.store.strings.get? (s.keys.sessionMarker user) = _ from hm]
  have hl : decide (t ≤ x) = false :=
    decide_eq_false fun hle : t.millis ≤ x.millis => by omega
  simp only [Option.filter, Store.StoredText.isAlive, hl, Bool.false_eq_true, if_false,
    Option.map_none]

theorem getString_of_marker_none {t : Instant} (h : s.marker m user = none) :
    m.store.getString t (s.keys.sessionMarker user) = none := by
  unfold Store.getString
  rw [show m.store.strings.get? (s.keys.sessionMarker user) = _ from h]
  rfl

/-! ## One event -/

/-- The stores hold of a user what a tally holds. -/
structure Represents (s : Service) (user : String) (r : Int) (T : Tally) (m : Memory) : Prop where
  bucket : s.KeepsBucket user r m
  score : m.store.getScore (s.keys.accrualSet r) user = T.pending
  marks : ∀ a, T.last = some a → s.Marks user a m
  unmarked : T.last = none → s.marker m user = none
  written : s.Written user T.written m

namespace Represents

variable {T : Tally} {a t : Instant}

theorem clockAt (h : s.Represents user r T m) (t : Instant) :
    s.Represents user r T (m.clockAt t) := by
  refine ⟨h.bucket.of_eq rfl rfl, h.score, fun a ha => ?_, h.unmarked, ?_⟩
  · exact ⟨(h.marks a ha).exists_marker⟩
  · exact ⟨h.written.record, h.written.counted⟩

theorem resolved (h : s.Represents user r T m) : s.Represents user r T (s.resolved user m) := by
  refine ⟨h.bucket.resolved, ?_, fun a ha => ?_, fun hn => ?_, ?_⟩
  · rw [getScore_resolved]
    exact h.score
  · obtain ⟨x, hx⟩ := (h.marks a ha).exists_marker
    exact ⟨x, by rw [marker_resolved]; exact hx⟩
  · rw [marker_resolved]
    exact h.unmarked hn
  · refine ⟨fun v day => ?_, ?_⟩
    · rw [s.resolved_ledger]
      exact h.written.record v day
    · rw [s.resolved_metrics]
      exact h.written.counted

/-- A new marker names a later last activity. -/
theorem mark (h : s.Represents user r T m) {x : Instant}
    (hx : x.millis = t.millis + 1000 * s.session.markerSeconds) :
    s.Represents user r ⟨some t, T.pending, T.written⟩
      (m.putString (s.keys.sessionMarker user) (toString t.millis) (some x)) := by
  refine ⟨?_, h.score, ?_, ?_, ⟨h.written.record, h.written.counted⟩⟩
  · exact h.bucket.of_eq (rangeText?_putString_sessionMarker s m user user _ _) rfl
  · rintro a ⟨⟩
    exact ⟨x, s.marker_putString m user _ _, hx⟩
  · rintro ⟨⟩

/-- Ending the session writes the pending seconds. -/
theorem close (h : s.Represents user r T m) (hb : T.Bounded) (ha : T.last = some a)
    (t : Instant) :
    ∃ m', m.run (s.closeSession user (s.keys.accrualSet r) T.pending t) = (.ok T.pending, m') ∧
      s.Represents user r ⟨some a, 0, T.written ++ positive t T.pending⟩ m' := by
  obtain ⟨m', hm, hw, hst, hp⟩ :=
    closeSession_written h.written hb.pending_nonneg hb.written_pos (hb.sum_le_greatest ha)
      (s.keys.accrualSet r) t
  have hstr : m'.store.strings = m.store.strings := by rw [hst]; rfl
  refine ⟨m', hm, h.bucket.of_eq ?_ hp, ?_, ?_, ?_, hw⟩
  · unfold rangeText?
    rw [hstr]
  · rw [hst, Store.getScore_setScore, if_pos ⟨rfl, rfl⟩]
  · rintro b ⟨⟩
    obtain ⟨x, hx⟩ := (h.marks a ha).exists_marker
    refine ⟨x, ?_⟩
    unfold marker
    rw [hstr]
    exact hx
  · rintro ⟨⟩

/-- What an event does to the stores is what it does to the tally, and its outcome tells what was
written. -/
def Follows (s : Service) (user : String) (r : Int) (T : Tally) (e : TimedEvent)
    (x : Outcome Accrual × Memory) : Prop :=
  ∃ a m', x = (.ok a, m') ∧ s.Represents user r (T.step s.session e) m' ∧
    (T.step s.session e).written = T.written ++ positive e.time a.flushed

theorem onHeartbeat (h : s.Represents user r T m) (hb : T.Bounded) :
    Follows s user r T ⟨m.clock.now, .heartbeat⟩ (m.run (s.onHeartbeat user)) := by
  have hres := h.resolved
  have hin := h.bucket.rangeIn_eq
  have hsc : (s.resolved user m).store.getScore (s.keys.accrualSet (s.rangeIn user m)) user =
      T.pending := by
    rw [hin]
    exact hres.score
  have h0 := hb.pending_nonneg
  unfold Follows Tally.step
  cases hl : T.last with
  | none =>
      obtain ⟨hp, -⟩ := hb.of_none hl
      have hn := getString_of_marker_none (t := m.clock.now) (hres.unmarked hl)
      refine ⟨_, _, s.run_onHeartbeat_of_empty user hn (by omega), hres, ?_⟩
      exact (List.append_nil _).symm
  | some a =>
      have hm := hres.marks a hl
      dsimp only
      by_cases ho : s.session.markerSeconds * 1000 < m.clock.now.millis - a.millis
      · have hn := hm.getString_of_lt ho
        rw [if_pos ho]
        by_cases hp : 0 < T.pending
        · -- the heartbeat writes what is pending
          obtain ⟨m', hc, hr'⟩ := hres.close hb hl m.clock.now
          refine ⟨.expired T.pending, m', ?_, hr', rfl⟩
          rw [s.run_onHeartbeat_of_expired user hn (by omega)]
          dsimp only
          rw [hsc, hin, hc]
          rfl
        · -- the session is over, but has no seconds
          have e : T.pending = 0 := by omega
          refine ⟨_, _, s.run_onHeartbeat_of_empty user hn (by omega), ?_, ?_⟩
          · rw [e, show positive m.clock.now 0 = [] from rfl, List.append_nil]
            refine ⟨hres.bucket, hres.score.trans e, ?_, ?_, hres.written⟩
            · rintro b ⟨⟩
              exact hm
            · rintro ⟨⟩
          · rw [e]
            rfl
      · -- the marker can be read
        rw [if_neg ho]
        refine ⟨_, _, s.run_onHeartbeat_of_open user (hm.getString_of_le (by omega)), hres, ?_⟩
        exact (List.append_nil _).symm

/-- A marker can be written as long as the calendar holds the end of its lifetime. -/
theorem exists_expires {t : Instant} {n : Nat} (h : t.millis + 1000 * n ≤ 8210266876799999) :
    ∃ x, t.after (Signed64.ofUnsigned n) = .ok x ∧ x.millis = t.millis + 1000 * n := by
  have hr := t.inRange
  have hn : Signed64.ofUnsigned n = (n : Int) := by
    unfold Signed64.ofUnsigned Signed64.greatest
    rw [if_pos (by omega)]
  refine ⟨⟨t.millis + 1000 * n, by omega⟩, ?_, rfl⟩
  unfold Instant.after Instant.longestSpan
  rw [hn, if_pos (by omega), Instant.ofMillis?, dif_pos (by omega)]
  rfl

/-- The marker that can be read is that of the last activity, for the lifetime of a marker. -/
theorem lastSeen (h : s.Represents user r T m) (t : Instant) :
    (m.store.getString t (s.keys.sessionMarker user)).bind marker? =
      T.last.filter fun a => t.millis - a.millis ≤ s.session.markerSeconds * 1000 := by
  cases hl : T.last with
  | none =>
      rw [getString_of_marker_none (h.unmarked hl)]
      rfl
  | some a =>
      have hm := h.marks a hl
      rw [Option.filter_some]
      split
      · rename_i hle
        rw [hm.getString_of_le (of_decide_eq_true hle), Option.bind_some, marker?_toString]
      · rename_i hgt
        have hlt : ¬ t.millis - a.millis ≤ s.session.markerSeconds * 1000 :=
          fun hle => hgt (decide_eq_true hle)
        rw [hm.getString_of_lt (by omega)]
        rfl

/-- An activity that closes the session before it. -/
theorem follows_of_close (hmk : s.Represents user r ⟨some t, T.pending, T.written⟩ m)
    (hb : Tally.Bounded ⟨some t, T.pending, T.written⟩)
    (hstep : T.step s.session ⟨t, .activity⟩ = ⟨some t, 0, T.written ++ positive t T.pending⟩)
    {f : Int → Accrual} (hf : ∀ n, (f n).flushed = n) {x : Outcome Accrual × Memory}
    (hx : x =
      ((m.run (s.closeSession user (s.keys.accrualSet r) T.pending t)).1.map f,
        (m.run (s.closeSession user (s.keys.accrualSet r) T.pending t)).2)) :
    Follows s user r T ⟨t, .activity⟩ x := by
  obtain ⟨m', hc, hr⟩ := hmk.close hb rfl t
  rw [hc] at hx
  refine ⟨f T.pending, m', hx, ?_, ?_⟩
  · rw [hstep]
    exact hr
  · rw [hstep, hf]

/-- An activity that continues the session before it. -/
theorem follows_of_accrue {gap : Int}
    (hmk : s.Represents user r ⟨some t, T.pending, T.written⟩ m)
    (hb : Tally.Bounded ⟨some t, T.pending + gap, T.written⟩)
    (hstep : T.step s.session ⟨t, .activity⟩ = ⟨some t, T.pending + gap, T.written⟩)
    {x : Outcome Accrual × Memory}
    (hx : x = ((m.run (Operation.incrScore (s.keys.accrualSet r) user gap)).1.map
        fun _ => .accrued gap,
      (m.run (Operation.incrScore (s.keys.accrualSet r) user gap)).2)) :
    Follows s user r T ⟨t, .activity⟩ x := by
  have hfit : Signed64.Fits (m.store.getScore (s.keys.accrualSet r) user + gap) := by
    rw [hmk.score]
    exact hb.fits_pending rfl
  rw [Memory.run_incrScore_of_fits hfit] at hx
  unfold Follows
  rw [hstep]
  refine ⟨_, _, hx, ?_, (List.append_nil _).symm⟩
  refine ⟨hmk.bucket.of_eq rfl rfl, ?_, fun b hb => ⟨(hmk.marks b hb).exists_marker⟩,
    fun hn => (by cases hn), ⟨hmk.written.record, hmk.written.counted⟩⟩
  show (m.store.setScore _ _ _).getScore _ _ = _
  rw [Store.getScore_setScore, if_pos ⟨rfl, rfl⟩, hmk.score]

theorem onActivity (h : s.Represents user r T m) (hb : T.Bounded)
    (ht : ∀ a, T.last = some a → a.millis ≤ m.clock.now.millis)
    (hx : m.clock.now.millis + 1000 * s.session.markerSeconds ≤ 8210266876799999) :
    Follows s user r T ⟨m.clock.now, .activity⟩ (m.run (s.onActivity user)) := by
  obtain ⟨x, hx, hx'⟩ := exists_expires hx
  have hres := h.resolved
  have hmk := hres.mark hx'
  have hbm := hb.marked ht
  have hstep := hb.step (p := s.session) (e := ⟨m.clock.now, .activity⟩) ht
  have hsc : (s.resolved user m).store.getScore (s.keys.accrualSet (s.rangeIn user m)) user =
      T.pending := by
    rw [h.bucket.rangeIn_eq]
    exact hres.score
  rw [s.run_onActivity_of_ok user hx]
  dsimp only
  rw [hsc, h.bucket.rangeIn_eq, hres.lastSeen]
  cases hl : T.last with
  | none =>
      -- a first session has nothing before it that could be written
      obtain ⟨hp, -⟩ := hb.of_none hl
      refine follows_of_close hmk hbm ?_ (fun _ => rfl) (s.run_judge_none user)
      unfold Tally.step
      rw [hl, hp, show positive m.clock.now 0 = [] from rfl, List.append_nil]
  | some a =>
      have hle := ht a hl
      have hgap : m.clock.now.secondsSince a = (m.clock.now.millis - a.millis) / 1000 :=
        Int.tdiv_eq_ediv_of_nonneg (by omega)
      rw [Option.filter_some]
      by_cases ho : m.clock.now.millis - a.millis ≤ s.session.markerSeconds * 1000
      · rw [if_pos (decide_eq_true ho)]
        by_cases hg : s.session.gapSeconds ≤ m.clock.now.secondsSince a
        · -- the marker is there, but too old
          have hbd := s.session.isBoundary_iff.2 (.inl (by omega) :
            s.session.gapSeconds * 1000 ≤ m.clock.now.millis - a.millis ∨ _)
          exact follows_of_close hmk hbm (Tally.step_of_boundary hl hbd) (fun _ => rfl)
            (s.run_judge_of_gap user hg)
        · have hbd : s.session.isBoundary a m.clock.now = false := by
            apply Bool.eq_false_iff.2
            intro hbd
            have := s.session.isBoundary_iff.1 hbd
            omega
          have he := Tally.step_of_not_boundary hl hbd
          rw [← hgap] at he
          rw [he] at hstep
          by_cases h0 : 0 < m.clock.now.secondsSince a
          · exact follows_of_accrue hmk hstep he (s.run_judge_of_accrued user hg h0)
          · -- less than a second has gone by
            have hz : m.clock.now.secondsSince a = 0 := by omega
            rw [s.run_judge_of_no_gap user hg h0]
            unfold Follows
            rw [he, hz, Int.add_zero]
            exact ⟨_, _, rfl, hmk, (List.append_nil _).symm⟩
      · -- the marker has expired
        have hbd := s.session.isBoundary_iff.2 (.inr (by omega) :
          _ ∨ s.session.markerSeconds * 1000 < m.clock.now.millis - a.millis)
        rw [if_neg fun hd => ho (of_decide_eq_true hd)]
        exact follows_of_close hmk hbm (Tally.step_of_boundary hl hbd) (fun _ => rfl)
          (s.run_judge_none user)

end Represents

/-! ## Events one after another -/

theorem Represents.liveAccrual {T : Tally} (h : s.Represents user r T m) :
    (m.run (s.liveAccrual user)).1 = .ok T.pending := by
  rw [s.run_liveAccrual user, h.bucket.rangeIn_eq, getScore_resolved, h.score]

theorem Represents.of_empty (hstore : m.store = {}) (hledger : m.ledger = {})
    (hcount : m.metrics.sessionsFlushed = 0) (s : Service) (user : String) :
    s.Represents user (s.chosenRange user m) ⟨none, 0, []⟩ m := by
  refine ⟨⟨.inl ?_, rfl⟩, ?_, fun a ha => (by cases ha), fun _ => ?_, ?_, ?_⟩
  · unfold rangeText?
    rw [hstore]
    rfl
  · rw [hstore]
    rfl
  · unfold marker
    rw [hstore]
    rfl
  · intro v day
    rw [hledger]
    exact (ite_self none).symm
  · rw [hcount]
    rfl

/-- An event that arrives is served like the tally says. -/
theorem Represents.proceed {T : Tally} {e : TimedEvent} (h : s.Represents user r T m)
    (hb : T.Bounded) (ht : ∀ a, T.last = some a → a.millis ≤ e.time.millis)
    (hx : e.kind = .activity →
      (Instant.ofMillis? (e.time.millis + 1000 * s.session.markerSeconds)).isSome = true) :
    ∃ en m', m.proceed s (e.happenings user) = ([en], m') ∧ en.outcome.isOk = true ∧
      s.Represents user r (T.step s.session e) m' ∧
      (T.step s.session e).written = T.written ++ positive e.time en.flushed := by
  obtain ⟨t, k⟩ := e
  have h' := h.clockAt t
  cases k with
  | heartbeat =>
      obtain ⟨a, m', hr, hm', hw⟩ := h'.onHeartbeat hb
      have e := Memory.run_map (m := m.clockAt t) (s.onHeartbeat user) Report.accrual
      rw [hr] at e
      refine ⟨⟨.heartbeat user, .ok (.accrual a)⟩, m', ?_, rfl, hm', hw⟩
      have hp : (m.clockAt t).run (s.perform (.heartbeat user)) = (.ok (.accrual a), m') := e
      simp only [TimedEvent.happenings, Memory.proceed, Memory.happen, hp]
      rfl
  | activity =>
      obtain ⟨x, hx⟩ := Option.isSome_iff_exists.1 (hx rfl)
      have hxm := Instant.ofMillis?_eq_some.1 hx
      have hxr := x.inRange
      dsimp only at hxm
      obtain ⟨a, m', hr, hm', hw⟩ := h'.onActivity hb ht
        (show t.millis + 1000 * s.session.markerSeconds ≤ 8210266876799999 by omega)
      have e := Memory.run_map (m := m.clockAt t) (s.onActivity user) Report.accrual
      rw [hr] at e
      refine ⟨⟨.activity user, .ok (.accrual a)⟩, m', ?_, rfl, hm', hw⟩
      have hp : (m.clockAt t).run (s.perform (.activity user)) = (.ok (.accrual a), m') := e
      simp only [TimedEvent.happenings, Memory.proceed, Memory.happen, hp]
      rfl

/-- What requests for the events of a user have reported and left behind, in terms of the sessions
of the events. -/
structure Refines (s : Service) (user : String) (es : List TimedEvent) (entries : List Entry)
    (m : Memory) : Prop where
  length_eq : entries.length = es.length
  isOk : ∀ en ∈ entries, en.outcome.isOk = true
  /-- The accrued time is that of the last session as long as it is not over. -/
  live : (m.run (s.liveAccrual user)).1 = .ok (s.session.pending es)
  /-- After an activity it is the time between the activities since the last boundary. -/
  live_of_activity : ∀ init t, es = init ++ [⟨t, .activity⟩] →
    (m.run (s.liveAccrual user)).1 = .ok (onlineSeconds (s.session.lastSession es))
  /-- Each session that is over was reported as flushed by the event that ended it, and no other
  event has reported anything. -/
  reported : (List.zipWith (fun e en => positive e.time (Entry.flushed en)) es entries).flatten =
    s.session.written es
  /-- The daily statistics hold the sessions that are over, and nothing else. -/
  record : ∀ v day, m.ledger.find v day =
    if v = user then s.session.recordOn user day (s.session.written es) else none
  /-- Every such session was written once. -/
  counted : m.metrics.value .sessionsFlushed =
    (s.session.written es).length % 18446744073709551616

theorem represents_proceed (s : Service) (user : String) {es : List TimedEvent}
    (hrep : s.Represents user r ⟨none, 0, []⟩ m)
    (hs : es.Pairwise fun d e => d.time.millis ≤ e.time.millis)
    (hx : ∀ e ∈ es, e.kind = .activity →
      (Instant.ofMillis? (e.time.millis + 1000 * s.session.markerSeconds)).isSome = true) :
    ∃ entries m', m.proceed s (es.flatMap (TimedEvent.happenings user)) = (entries, m') ∧
      s.Represents user r (s.session.tally es) m' ∧ entries.length = es.length ∧
      (∀ en ∈ entries, en.outcome.isOk = true) ∧
      (List.zipWith (fun e en => positive e.time (Entry.flushed en)) es entries).flatten =
        (s.session.tally es).written := by
  -- the induction is on the last event; the tally of the events before carries it
  induction es using List.reverseRecOn with
  | nil => exact ⟨[], m, rfl, hrep, rfl, fun en hen => (by cases hen), rfl⟩
  | append_singleton es e ih =>
      have hp := List.pairwise_append.1 hs
      obtain ⟨entries, m₁, hrun, hrep₁, hlen, hok, hrpt⟩ :=
        ih hp.1 fun d hd => hx d (List.mem_append_left _ hd)
      have hle : ∀ a, (s.session.tally es).last = some a → a.millis ≤ e.time.millis := by
        intro a ha
        obtain ⟨d, hd, rfl⟩ := s.session.mem_of_last_tally ha
        exact hp.2.2 d hd e List.mem_cons_self
      obtain ⟨en, m₂, hrun₂, hok₂, hrep₂, hw⟩ :=
        hrep₁.proceed (s.session.tally_bounded hp.1) hle
          (hx e (List.mem_append_right _ List.mem_cons_self))
      rw [SessionPolicy.tally_concat]
      refine ⟨entries ++ [en], m₂, ?_, hrep₂, ?_, fun d hd => ?_, ?_⟩
      · rw [List.flatMap_append, Memory.proceed_append, hrun, List.flatMap_singleton, hrun₂]
      · rw [List.length_append, List.length_append, hlen]
        rfl
      · rcases List.mem_append.1 hd with hd | hd
        · exact hok d hd
        · rw [List.mem_singleton.1 hd]
          exact hok₂
      · rw [List.zipWith_append hlen.symm, List.flatten_append, hrpt, hw]
        simp only [List.zipWith_cons_cons, List.zipWith_nil_left, List.flatten_singleton]

/-- The events of a user, served one after another from empty stores at times that do not decrease,
have the effect of their sessions. -/
theorem refines_sessions (s : Service) (hgap : 1 ≤ s.session.gapSeconds) (hstore : m.store = {})
    (hledger : m.ledger = {}) (hcount : m.metrics.sessionsFlushed = 0) (user : String)
    {es : List TimedEvent} (hs : es.Pairwise fun d e => d.time.millis ≤ e.time.millis)
    (hx : ∀ e ∈ es, e.kind = .activity →
      (Instant.ofMillis? (e.time.millis + 1000 * s.session.markerSeconds)).isSome = true) :
    s.Refines user es (m.proceed s (es.flatMap (TimedEvent.happenings user))).1
      (m.proceed s (es.flatMap (TimedEvent.happenings user))).2 := by
  obtain ⟨entries, m', hrun, hrep, hlen, hok, hrpt⟩ :=
    represents_proceed s user (Represents.of_empty hstore hledger hcount s user) hs hx
  have hlive := hrep.liveAccrual
  rw [SessionPolicy.tally_eq hgap hs] at hrep hlive hrpt
  rw [hrun]
  refine ⟨hlen, hok, hlive, ?_, hrpt, hrep.written.record, hrep.written.counted⟩
  -- after an activity the last session is not over
  rintro init t rfl
  rw [hlive, SessionPolicy.pending_concat_activity hgap hs]

/-- Three activities, a heartbeat when the marker has expired, and an activity after it. -/
def fiveEvents : List TimedEvent :=
  [⟨Clock.noon, .activity⟩, ⟨⟨1792324831000, by decide⟩, .activity⟩,
    ⟨⟨1792324861500, by decide⟩, .activity⟩, ⟨⟨1792324931000, by decide⟩, .heartbeat⟩,
    ⟨⟨1792325000000, by decide⟩, .activity⟩]

theorem refines_sessions_fiveEvents :
    standard.Refines "ada" fiveEvents
        ((Memory.fresh Clock.noon).proceed standard
          (fiveEvents.flatMap (TimedEvent.happenings "ada"))).1
        ((Memory.fresh Clock.noon).proceed standard
          (fiveEvents.flatMap (TimedEvent.happenings "ada"))).2 ∧
      standard.session.written fiveEvents = [(⟨1792324931000, by decide⟩, 61)] :=
  ⟨refines_sessions standard (by decide) rfl rfl rfl "ada" (by decide) (by decide),
    by decide +kernel⟩

end Service

end Presence
