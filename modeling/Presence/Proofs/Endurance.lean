import Presence.Proofs.AlertTargets
import Presence.Proofs.Growth
import Presence.Proofs.LowerBound
import Presence.Proofs.Request
import Presence.Settings.Sources

/-!
# Settings under which nothing crashes

Events and scans can crash on a lifetime that leads out of the calendar, on a sum of seconds and on
the bounds of the alert bands. No sum of seconds ever does it: what a user has accrued and spent
fits between 1970 and the latest marker (`Service.Sound`). Main statements:
`Settings.markerFits_iff`, the lifetimes of a marker that stay inside the calendar, and
`Settings.withstands_iff`, settings that make sense withstand every run exactly if the marker fits
and the last alert band ends inside 64 bits.
-/

set_option autoImplicit false

namespace Presence

/-- An instant of the years from 1970 to 9999. -/
def Instant.IsCurrent (t : Instant) : Prop := 0 ≤ t.millis ∧ t.millis ≤ 253402300799999

instance (t : Instant) : Decidable t.IsCurrent := inferInstanceAs (Decidable (_ ∧ _))

/-- The request of an event. -/
def ActivityEvent.request (e : ActivityEvent) : Request :=
  match e.kind with
  | .activity => .activity e.user
  | .heartbeat => .heartbeat e.user

/-- An event that arrives at an instant. -/
structure Arrival where
  time : Instant
  event : ActivityEvent

/-- What happens when an event arrives. -/
def Arrival.happenings (a : Arrival) : List Happening := [.clock a.time, .request a.event.request]

namespace Memory

open Operation

variable {α β : Type} {m : Memory}

theorem clock_run (p : Operation α) (m : Memory) : (m.run p).2.clock = m.clock := by
  unfold run
  induction p generalizing m with
  | done o => rfl
  | call c next ih => exact (ih _ _).trans (m.clock_serve c)

end Memory

namespace Service

open Operation Program

variable {s : Service} {user : String} {m : Memory} {α β : Type}

/-! ## What every run from empty stores keeps -/

/-- Nothing fails: the seconds of a user stay covered, and no marker is written but at the time of
the clock. -/
theorem Safe.run {p : Operation α} {ts : List Instant} (h : s.Safe user p (m, ts)) :
    ∃ ts', s.Covered user 0 ((m.run p).2, ts') ∧ ∀ t ∈ ts', t ∈ ts ∨ t = m.clock.now := by
  -- a call that writes a marker puts the time of the clock in front of the times, no other does
  induction p generalizing m ts with
  | done o => exact ⟨ts, h, fun t ht => .inl ht⟩
  | call c next ih =>
      have hnext := h.2 _ _ ⟨none, rfl, rfl⟩
      rw [Exchange.reply_of_none, Exchange.after_of_none] at hnext
      obtain ⟨ts', hcovered, hmem⟩ := ih _ hnext
      refine ⟨ts', hcovered, fun t ht => ?_⟩
      rcases hmem t ht with hin | rfl
      · simp only [noteMark] at hin
        split at hin
        · exact (List.mem_cons.1 hin).symm
        · exact .inl hin
      · rw [Memory.clock_serve]
        exact .inr rfl

/-- The seconds of every user fit between 1970 and the latest marker, and no day has less than
none. -/
structure Sound (s : Service) (m : Memory) : Prop where
  covered : ∀ user, ∃ ts, s.Covered user 0 (m, ts) ∧ ∀ t ∈ ts, (0 : Int) ≤ t.millis
  recorded : ∀ user day r, m.ledger.find user day = some r → 0 ≤ r.spentSeconds

theorem sound_of_empty (hstore : m.store = {}) (hledger : m.ledger = {}) : s.Sound m where
  covered _ := ⟨[], covered_of_empty hstore hledger, fun _ ht => absurd ht List.not_mem_nil⟩
  recorded user day r hr := by
    rw [hledger] at hr
    cases hr

theorem Sound.clockAt (h : s.Sound m) {t : Instant} (ht : m.clock.now ≤ t) :
    s.Sound (m.clockAt t) where
  covered user := by
    obtain ⟨ts, hcovered, hts⟩ := h.covered user
    exact ⟨ts, hcovered.clockAt ht, hts⟩
  recorded := h.recorded

theorem spentOn_nonneg (h : ∀ user day r, m.ledger.find user day = some r → 0 ≤ r.spentSeconds)
    (user day : String) : 0 ≤ m.ledger.spentOn user day := by
  rw [Ledger.spentOn]
  cases hfind : m.ledger.find user day with
  | none => exact Int.le_refl 0
  | some r => exact h user day r hfind

/-- A fair call leaves no day with less than no seconds. -/
theorem recorded_serve {c : Call} (hc : c.IsFair s.keys)
    (h : ∀ user day r, m.ledger.find user day = some r → 0 ≤ r.spentSeconds)
    (user day : String) (r : DailyStatistic)
    (hr : (Memory.serve c m).2.ledger.find user day = some r) : 0 ≤ r.spentSeconds := by
  cases c with
  | ledger c =>
      cases c with
      | add u d seconds =>
          change (m.ledger.add u d seconds).2.find user day = some r at hr
          by_cases hfits : Signed64.Fits (m.ledger.spentOn u d + seconds)
          · rw [Ledger.find_add hfits] at hr
            split at hr
            · obtain rfl := Option.some.inj hr
              exact Int.add_nonneg (spentOn_nonneg h u d) hc
            · exact h user day r hr
          · rw [Ledger.add_of_not_fits _ _ _ _ hfits] at hr
            exact h user day r hr
      | find u d => exact h user day r hr
      | range u first last => exact h user day r hr
  | store c => exact h user day r hr
  | profile u => exact h user day r hr
  | notify n => exact h user day r hr
  | queue c => exact h user day r hr
  | now => exact h user day r hr
  | count c n => exact h user day r hr
  | enter job => exact h user day r hr
  | leave job => exact h user day r hr

theorem recorded_run {p : Operation α} (hp : p.Only fun c => c.IsFair s.keys)
    (h : ∀ user day r, m.ledger.find user day = some r → 0 ≤ r.spentSeconds) :
    ∀ user day r, (m.run p).2.ledger.find user day = some r → 0 ≤ r.spentSeconds := by
  induction p generalizing m with
  | done o => exact h
  | call c next ih => exact ih _ (hp.2 _) (recorded_serve hp.1 h)

theorem fair_event (e : ActivityEvent) :
    (s.perform e.request).Only fun c => c.IsFair s.keys := by
  obtain ⟨u, kind⟩ := e
  cases kind with
  | activity =>
      refine Only.bind ((only_onActivity u).mono fun c hc => ?_) fun _ => only_pure _
      rcases hc with hc | ⟨text, ttl⟩
      · exact hc.isFair
      · exact True.intro
  | heartbeat =>
      exact Only.bind ((only_onHeartbeat u).mono fun _ hc => hc.isFair) fun _ => only_pure _

/-- The pool in which nothing runs admits every event. -/
theorem safe_event (e : ActivityEvent) {ts : List Instant} (h : s.Covered user 0 (m, ts)) :
    s.Safe user (s.perform e.request) (m, ts) := by
  have hallowed : (⟨m, [], []⟩ : Pool).oneAtATime (.begin e.request) = true := by
    obtain ⟨u, kind⟩ := e
    cases kind <;> rfl
  exact safe_perform hallowed h

theorem Sound.run (h : s.Sound m) (hnow : 0 ≤ m.clock.now.millis) {p : Operation α}
    (hsafe : ∀ user ts, s.Covered user 0 (m, ts) → s.Safe user p (m, ts))
    (hfair : p.Only fun c => c.IsFair s.keys) : s.Sound (m.run p).2 where
  covered user := by
    obtain ⟨ts, hcovered, hts⟩ := h.covered user
    obtain ⟨ts', hcovered', hmem⟩ := (hsafe user ts hcovered).run
    refine ⟨ts', hcovered', fun t ht => ?_⟩
    rcases hmem t ht with hin | rfl
    · exact hts t hin
    · exact hnow
  recorded := recorded_run hfair h.recorded

theorem Sound.event (h : s.Sound m) (hnow : 0 ≤ m.clock.now.millis) (e : ActivityEvent) :
    s.Sound (m.run (s.perform e.request)).2 :=
  h.run hnow (fun _ _ hcovered => safe_event e hcovered) (fair_event e)

theorem Sound.resolved (h : s.Sound m) (hnow : 0 ≤ m.clock.now.millis) (user : String) :
    s.Sound (s.resolved user m) := by
  have hrun := h.run hnow (p := s.resolve user)
    (fun _ _ hcovered => safe_of_spares (spares_resolve user) hcovered)
    ((only_resolve user).mono fun _ hc => hc.isFair)
  rwa [s.run_resolve user] at hrun

/-! ## No sum of seconds is too great -/

/-- The accrued time in one bucket is a part of all of it. -/
theorem Covered.getScore_le {ts : List Instant} (h : s.Covered user 0 (m, ts)) (b : Int) :
    m.store.getScore (s.keys.accrualSet b) user ≤ m.store.accrued s.keys user := by
  have hreset := m.store.accrued_setScore (k := s.keys) b user user 0
  rw [if_pos rfl] at hreset
  have hrest : 0 ≤ (m.store.setScore (s.keys.accrualSet b) user 0).accrued s.keys user := by
    refine Store.accrued_nonneg _ fun b' => ?_
    rw [Store.getScore_setScore]
    split
    · exact Int.le_refl 0
    · exact h.score_nonneg b'
  omega

theorem Sound.spentOn_le (h : s.Sound m) (user day : String) :
    m.ledger.spentOn user day ≤ m.ledger.spent user := by
  -- the other days together have no less than no seconds
  have herase := Table.sum_erase (fun at_ r => if at_.user = user then r.spentSeconds else 0)
    m.ledger.records ⟨user, day⟩
  have hrest : 0 ≤ (m.ledger.records.erase ⟨user, day⟩).sum
      fun at_ r => if at_.user = user then r.spentSeconds else 0 := by
    refine Table.sum_nonneg fun at_ r hr => ?_
    rw [Table.get?_erase] at hr
    split at hr
    · cases hr
    · split
      · exact h.recorded at_.user at_.day r hr
      · exact Int.le_refl 0
  have hone : (m.ledger.records.get? ⟨user, day⟩).elim 0
      (fun r => if user = user then r.spentSeconds else 0) = m.ledger.spentOn user day := by
    simp only [if_true]
    rfl
  rw [herase, hone] at hrest
  exact Int.le_of_sub_nonneg hrest

/-- Up to the year 9999 a user has no more seconds than have passed since 1970. -/
theorem Sound.seconds_le (h : s.Sound m) (hnow : m.clock.now.IsCurrent) (user day : String)
    (b : Int) :
    0 ≤ m.store.getScore (s.keys.accrualSet b) user ∧ 0 ≤ m.ledger.spentOn user day ∧
      m.store.getScore (s.keys.accrualSet b) user + m.ledger.spentOn user day ≤ 253402300799 := by
  obtain ⟨ts, hcovered, hts⟩ := h.covered user
  have hspent := spentOn_nonneg h.recorded user day
  have hspent_le := h.spentOn_le user day
  have hscore := hcovered.score_nonneg b
  have hscore_le := hcovered.getScore_le b
  refine ⟨hscore, hspent, ?_⟩
  have hcredit : 1000 * m.credit s.keys user ≤ 253402300799999 := by
    cases ts with
    | nil =>
        have hnone : m.credit s.keys user + 0 = 0 := hcovered.within.of_nil rfl
        omega
    | cons latest rest =>
        obtain ⟨first, hfirst⟩ : ∃ first, (latest :: rest).getLast? = some first :=
          ⟨_, List.getLast?_eq_some_getLast (List.cons_ne_nil _ _)⟩
        have hwithin : 1000 * (m.credit s.keys user + 0) ≤ latest.millis - first.millis :=
          hcovered.within.le latest first rfl hfirst
        have hlatest : latest.millis ≤ m.clock.now.millis := (hcovered.marked latest rfl).1
        have hpos := hts first (List.mem_of_getLast? hfirst)
        have hend := hnow.2
        omega
  rw [Memory.credit] at hcredit
  omega

/-! ## Events -/

theorem isOk_map {o : Outcome α} (h : o.isOk = true) (f : α → β) : (o.map f).isOk = true := by
  cases o with
  | ok a => rfl
  | failed e => cases h
  | crashed c => cases h

/-- The gap to any earlier instant is a number of 64 bits, and far from the greatest. -/
theorem secondsSince_le (t a : Instant) : t.secondsSince a ≤ 16544868105600 := by
  have ht := t.inRange
  have ha := a.inRange
  rw [Instant.secondsSince]
  by_cases h : 0 ≤ t.millis - a.millis
  · rw [Int.tdiv_eq_ediv_of_nonneg h]
    omega
  · have hneg : 0 ≤ (-(t.millis - a.millis)).tdiv 1000 := Int.tdiv_nonneg (by omega) (by decide)
    rw [Int.neg_tdiv] at hneg
    omega

/-- The seconds of these years and a gap between any two instants are together still far from the
greatest number of 64 bits. -/
theorem fits_of_seconds {n : Int} (h0 : 0 ≤ n) (h : n ≤ 253402300799 + 16544868105600) :
    Signed64.Fits n := AlertBand.fits_of_le h0 h (by decide)

theorem closeSession_isOk {set : String} {accrued : Int} {t : Instant}
    (h : Signed64.Fits (m.ledger.spentOn user (s.session.zone.dayKey t) + accrued)) :
    (m.run (s.closeSession user set accrued t)).1.isOk = true := by
  by_cases hpos : 0 < accrued
  · rw [s.run_closeSession_of_pos user hpos h]
    rfl
  · rw [s.run_closeSession_of_nonpos user (Int.not_lt.1 hpos)]
    rfl

/-- What is judged ends with a value as long as the score and the seconds of the day are those of
the years up to 9999. -/
theorem judge_isOk {set : String} {accrued : Int} {t : Instant} (last : Option Instant)
    (hscore : 0 ≤ accrued) (heq : m.store.getScore set user = accrued)
    (hspent : 0 ≤ m.ledger.spentOn user (s.session.zone.dayKey t))
    (hle : accrued + m.ledger.spentOn user (s.session.zone.dayKey t) ≤ 253402300799) :
    (m.run (s.judge user set accrued t last)).1.isOk = true := by
  have hclose : Signed64.Fits (m.ledger.spentOn user (s.session.zone.dayKey t) + accrued) :=
    fits_of_seconds (by omega) (by omega)
  cases last with
  | none =>
      rw [run_judge_none]
      exact isOk_map (closeSession_isOk hclose) _
  | some last =>
      by_cases hgap : s.session.gapSeconds ≤ t.secondsSince last
      · rw [s.run_judge_of_gap user hgap]
        exact isOk_map (closeSession_isOk hclose) _
      · by_cases hpos : 0 < t.secondsSince last
        · have hlast := secondsSince_le t last
          have hsum : Signed64.Fits (m.store.getScore set user + t.secondsSince last) :=
            fits_of_seconds (by omega) (by omega)
          rw [s.run_judge_of_accrued user hgap hpos, Memory.run_incrScore_of_fits hsum]
          rfl
        · rw [s.run_judge_of_no_gap user hgap hpos]
          rfl

/-- An activity ends with a value where its marker stays inside the calendar. -/
theorem Sound.onActivity_isOk (h : s.Sound m) (hnow : m.clock.now.IsCurrent) (user : String)
    {expires : Instant}
    (hmarker : m.clock.now.after (Signed64.ofUnsigned s.session.markerSeconds) = .ok expires) :
    (m.run (s.onActivity user)).1.isOk = true := by
  have hbefore := h.resolved hnow.1 user
  have hclock : (s.resolved user m).clock.now.IsCurrent := by rwa [s.resolved_clock user]
  obtain ⟨hscore, hspent, hle⟩ := hbefore.seconds_le hclock user
    (s.session.zone.dayKey m.clock.now) (s.rangeIn user m)
  rw [s.run_onActivity_of_ok user hmarker]
  -- the renewed marker changes no score and no statistics
  exact judge_isOk _ hscore rfl hspent hle

theorem Sound.onHeartbeat_isOk (h : s.Sound m) (hnow : m.clock.now.IsCurrent) (user : String) :
    (m.run (s.onHeartbeat user)).1.isOk = true := by
  have hbefore := h.resolved hnow.1 user
  have hclock : (s.resolved user m).clock.now.IsCurrent := by rwa [s.resolved_clock user]
  obtain ⟨hscore, hspent, hle⟩ := hbefore.seconds_le hclock user
    (s.session.zone.dayKey m.clock.now) (s.rangeIn user m)
  cases htext : (s.resolved user m).store.getString m.clock.now (s.keys.sessionMarker user) with
  | some text =>
      rw [s.run_onHeartbeat_of_open user htext]
      rfl
  | none =>
      by_cases hpos : 0 < (s.resolved user m).store.getScore
          (s.keys.accrualSet (s.rangeIn user m)) user
      · rw [s.run_onHeartbeat_of_expired user htext hpos]
        exact isOk_map (closeSession_isOk (fits_of_seconds (by omega) (by omega))) _
      · rw [s.run_onHeartbeat_of_empty user htext (Int.not_lt.1 hpos)]
        rfl

theorem Sound.event_isOk (h : s.Sound m) (hnow : m.clock.now.IsCurrent) {expires : Instant}
    (hmarker : m.clock.now.after (Signed64.ofUnsigned s.session.markerSeconds) = .ok expires)
    (e : ActivityEvent) : (m.run (s.perform e.request)).1.isOk = true := by
  obtain ⟨u, kind⟩ := e
  cases kind with
  | activity =>
      rw [ActivityEvent.request, perform, Memory.run_map]
      exact isOk_map (h.onActivity_isOk hnow u hmarker) _
  | heartbeat =>
      rw [ActivityEvent.request, perform, Memory.run_map]
      exact isOk_map (h.onHeartbeat_isOk hnow u) _

/-! ## Scans -/

/-- A program that ends with a value in all surroundings in memory. -/
def Succeeds (p : Operation α) : Prop := ∀ m : Memory, (m.run p).1.isOk = true

theorem Succeeds.bind {p : Operation α} {f : α → Operation β} (hp : Succeeds p)
    (hf : ∀ a, Succeeds (f a)) : Succeeds (p >>= f) := by
  intro m
  cases hrun : m.run p with
  | mk o t =>
      have hok := hp m
      rw [hrun] at hok
      cases o with
      | ok a =>
          rw [Memory.run_bind_ok hrun]
          exact hf a t
      | failed e => cases hok
      | crashed c => cases hok

theorem succeeds_pure (a : α) : Succeeds (pure a : Operation α) := fun _ => rfl

theorem succeeds_sumOver {f : α → Operation Nat} (hf : ∀ a, Succeeds (f a)) (l : List α) :
    Succeeds (sumOver f l) := by
  induction l with
  | nil => exact succeeds_pure 0
  | cons x rest ih => exact (hf x).bind fun n => ih.bind fun k => succeeds_pure _

theorem succeeds_notifyCounted (n : Notification) (c : Counter) :
    Succeeds (notifyCounted n c) := fun _ => rfl

theorem succeeds_remindAll (s : Service) : Succeeds s.remindAll := by
  have hbuckets : Succeeds s.knownBuckets := fun _ => rfl
  refine hbuckets.bind fun buckets => succeeds_sumOver (fun bucket => ?_) _
  have hrange : Succeeds (rangeByScore (s.keys.accrualSet bucket) 1 none) := fun _ => rfl
  refine hrange.bind fun users => succeeds_sumOver (fun u => ?_) _
  have hmarker : Succeeds (getString (s.keys.sessionMarker u)) := fun _ => rfl
  refine hmarker.bind fun marker => ?_
  cases marker with
  | none => exact succeeds_pure 0
  | some text =>
      have hscore : Succeeds (getScore (s.keys.accrualSet bucket) u) := fun _ => rfl
      exact hscore.bind fun n => succeeds_notifyCounted _ _

theorem succeeds_alertAll {bands : List AlertBand} (h : s.alerts.bands = .ok bands) :
    Succeeds s.alertAll := by
  have hbuckets : Succeeds s.knownBuckets := fun _ => rfl
  refine hbuckets.bind fun buckets => ?_
  have hbands : Succeeds (.done s.alerts.bands : Operation (List AlertBand)) := by
    intro m
    rw [h]
    rfl
  refine hbands.bind fun bands => succeeds_sumOver (fun band => succeeds_sumOver (fun b => ?_) _) _
  have hrange : Succeeds (rangeByScore (s.keys.accrualSet b) band.low (some band.high)) :=
    fun _ => rfl
  exact hrange.bind fun users => succeeds_sumOver (fun u => succeeds_notifyCounted _ _) _

theorem run_alertAll_of_crashed {c : Crash} (h : s.alerts.bands = .crashed c) :
    m.run s.alertAll = (.crashed c, m) := by
  unfold alertAll
  rw [Memory.run_bind_ok s.run_knownBuckets]
  refine Memory.run_bind_crashed ?_
  rw [h]
  rfl

/-- A scan that finds itself running is skipped. -/
theorem run_guarded_of_running {job : ScanJob} {p : Operation Nat}
    (h : (m.guards job).isRunning = true) : (m.run (guarded job p)).1 = .ok .skipped := by
  unfold guarded
  rw [Memory.run_bind_ok (a := false) (t := m.withGuard job ⟨true⟩)
    (show (Outcome.ok (!(m.guards job).isRunning), _) = _ by rw [h]; rfl)]
  rfl

/-- Else it ends as it does without the guard. -/
theorem run_guarded_of_idle {job : ScanJob} {p : Operation Nat}
    (h : (m.guards job).isRunning = false) :
    (m.run (guarded job p)).1 = ((m.withGuard job ⟨true⟩).run p).1.map .completed := by
  unfold guarded
  rw [Memory.run_bind_ok (a := true) (t := m.withGuard job ⟨true⟩)
    (show (Outcome.ok (!(m.guards job).isRunning), _) = _ by rw [h]; rfl)]
  rw [if_pos rfl, Memory.run_map]
  refine congrArg (Outcome.map _) ?_
  show (Program.run Memory.serve (p.settle _) _).1 = _
  rw [Program.run_settle]
  rfl

theorem Succeeds.guarded {job : ScanJob} {p : Operation Nat} (hp : Succeeds p) :
    Succeeds (guarded job p) := by
  intro m
  cases h : (m.guards job).isRunning with
  | true =>
      rw [run_guarded_of_running h]
      rfl
  | false =>
      rw [run_guarded_of_idle h]
      exact isOk_map (hp _) _

end Service

/-! ## Bands outside 64 bits -/

namespace AlertBand

variable {minutes : Int}

theorem times_of_not_fits {a b : Int} (h : ¬ Signed64.Fits (a * b)) :
    times a b = .crashed .multiplication := by
  have hnone : Signed64.mul? a b = none :=
    Option.eq_none_iff_forall_not_mem.2 fun _ hm => h (Signed64.mul?_eq_some.1 hm).1
  rw [times, hnone]
  rfl

theorem ofLevel_of_not_fits {level : Nat} (h : ¬ Signed64.Fits ((level + 1) * (minutes * 60))) :
    ofLevel level minutes = .crashed .multiplication := by
  rw [ofLevel]
  by_cases hstep : Signed64.Fits (minutes * 60)
  · rw [times_of_fits hstep, Outcome.andThen_ok]
    by_cases hlow : Signed64.Fits (level * (minutes * 60))
    · rw [times_of_fits hlow, Outcome.andThen_ok, times_of_not_fits h]
      rfl
    · rw [times_of_not_fits hlow]
      rfl
  · rw [times_of_not_fits hstep]
    rfl

theorem ofLevels_of_not_fits (h1 : 1 ≤ minutes) {n : Nat} :
    ∀ {first : Nat}, ¬ Signed64.Fits ((first + (n + 1 : Nat)) * (minutes * 60)) →
      ofLevels minutes first (n + 1) = .crashed .multiplication := by
  induction n with
  | zero =>
      intro first h
      rw [ofLevels, ofLevel_of_not_fits h]
      rfl
  | succ n ih =>
      intro first h
      rw [ofLevels]
      by_cases hfirst : Signed64.Fits ((first + 1) * (minutes * 60))
      · have hrest : ¬ Signed64.Fits (((first + 1 : Nat) + (n + 1 : Nat)) * (minutes * 60)) := by
          have he : ((first + 1 : Nat) : Int) + (n + 1 : Nat) = first + (n + 1 + 1 : Nat) := by
            omega
          rwa [he]
        rw [ofLevel_eq h1 hfirst, Outcome.andThen_ok, ih hrest]
        rfl
      · rw [ofLevel_of_not_fits hfirst]
        rfl

end AlertBand

/-- A policy with a level crashes where its last band ends outside 64 bits. -/
theorem AlertPolicy.bands_of_not_fits {p : AlertPolicy} (h1 : 1 ≤ p.minutes) (hlevels : 0 < p.levels)
    (h : ¬ Signed64.Fits p.ceiling) : p.bands = .crashed .multiplication := by
  obtain ⟨n, hn⟩ := Nat.exists_eq_add_of_lt hlevels
  rw [AlertPolicy.ceiling, AlertPolicy.step] at h
  rw [AlertPolicy.bands, AlertBand.all, hn, Nat.zero_add]
  refine AlertBand.ofLevels_of_not_fits h1 ?_
  have he : ((1 : Nat) : Int) + (n + 1 : Nat) = p.levels + 1 := by omega
  rwa [he]

namespace Settings

variable {s : Settings}

/-! ## Lifetimes outside the calendar -/

/-- Every marker of the years from 1970 to 9999 expires inside the calendar. A lifetime from 2⁶³
seconds on counts as the negative number with the same word. -/
def MarkerFits (s : Settings) : Prop :=
  s.markerTtlSeconds ≤ 7956864576000 ∨ 18446735739108322816 ≤ s.markerTtlSeconds

instance (s : Settings) : Decidable s.MarkerFits := inferInstanceAs (Decidable (_ ∨ _))

theorem MarkerFits.after (h : s.MarkerFits) (hword : s.markerTtlSeconds < 2 ^ 64) {t : Instant}
    (ht : t.IsCurrent) :
    ∃ expires, t.after (Signed64.ofUnsigned s.markerTtlSeconds) = .ok expires := by
  obtain ⟨h0, hend⟩ := ht
  have hspan : -8334601228800 ≤ Signed64.ofUnsigned s.markerTtlSeconds ∧
      Signed64.ofUnsigned s.markerTtlSeconds ≤ 7956864576000 := by
    rw [Signed64.ofUnsigned, Signed64.greatest]
    rcases h with h | h <;> split <;> omega
  rw [Instant.after, if_pos (by rw [Instant.longestSpan]; omega)]
  rw [Instant.ofMillis?, dif_pos (by omega)]
  exact ⟨_, rfl⟩

/-- Else an activity at the end or at the beginning of these years crashes. -/
theorem after_crashed_of_not_markerFits (h : ¬ s.MarkerFits) :
    ∃ t : Instant, t.IsCurrent ∧ ∃ c,
      t.after (Signed64.ofUnsigned s.markerTtlSeconds) = .crashed c := by
  obtain ⟨hlong, hshort⟩ := not_or.1 h
  by_cases hsign : (s.markerTtlSeconds : Int) ≤ Signed64.greatest
  · refine ⟨⟨253402300799999, by decide⟩, by decide, ?_⟩
    rw [Signed64.ofUnsigned, if_pos hsign]
    rcases Instant.after_cases ⟨253402300799999, by decide⟩ s.markerTtlSeconds with
      ⟨x, -, hx⟩ | hc | hc
    · have hrange := x.inRange
      simp only at hx
      omega
    · exact ⟨_, hc⟩
    · exact ⟨_, hc⟩
  · refine ⟨.epoch, by decide, ?_⟩
    rw [Signed64.ofUnsigned, if_neg hsign]
    rcases Instant.after_cases .epoch (s.markerTtlSeconds - 18446744073709551616) with
      ⟨x, -, hx⟩ | hc | hc
    · have hrange := x.inRange
      simp only [Instant.epoch] at hx
      omega
    · exact ⟨_, hc⟩
    · exact ⟨_, hc⟩

/-! ## Runs of events -/

/-- The surroundings after events have arrived in empty ones, where users have chosen ranges. -/
def reached (s : Settings) (profiles : Table String Int) (arrivals : List Arrival) : Memory :=
  (({ Memory.fresh .epoch with profiles } : Memory).proceed s.service
    (arrivals.flatMap Arrival.happenings)).2

/-- Nothing crashes: no event and no scan in the years from 1970 to 9999, after whatever events at
earlier instants of these years. -/
def Withstands (s : Settings) : Prop :=
  ∀ (profiles : Table String Int) (arrivals : List Arrival) (last : Instant),
    (arrivals.map Arrival.time ++ [last]).Pairwise (· ≤ ·) →
    (∀ t ∈ arrivals.map Arrival.time ++ [last], t.IsCurrent) →
    ∀ r : Request, ((∃ e : ActivityEvent, r = e.request) ∨ ∃ job, r = .scan job) →
    ∀ c, ((((s.reached profiles arrivals).clockAt last).run (s.service.perform r)).1 ≠ .crashed c)

/-- The seconds stay between the markers while events arrive one after another. -/
theorem sound_proceed {s : Service} {last : Instant} (arrivals : List Arrival) :
    ∀ {m : Memory}, s.Sound m → (∀ t ∈ arrivals.map Arrival.time, t.IsCurrent) →
      (m.clock.now :: (arrivals.map Arrival.time ++ [last])).Pairwise (· ≤ ·) →
      s.Sound ((m.proceed s (arrivals.flatMap Arrival.happenings)).2.clockAt last) := by
  induction arrivals with
  | nil =>
      intro m h _ hordered
      exact h.clockAt (List.rel_of_pairwise_cons hordered (List.mem_singleton.2 rfl))
  | cons a rest ih =>
      intro m h hcurrent hordered
      obtain ⟨ha, hrest⟩ := List.forall_mem_cons.1 hcurrent
      have hreached := h.clockAt (List.rel_of_pairwise_cons hordered List.mem_cons_self)
      refine ih (hreached.event ha.1 a.event) hrest ?_
      rw [Memory.clock_run]
      exact hordered.of_cons

theorem sound_reached {profiles : Table String Int} {arrivals : List Arrival} {last : Instant}
    (hordered : (arrivals.map Arrival.time ++ [last]).Pairwise (· ≤ ·))
    (hcurrent : ∀ t ∈ arrivals.map Arrival.time ++ [last], t.IsCurrent) :
    s.service.Sound ((s.reached profiles arrivals).clockAt last) := by
  refine sound_proceed arrivals (Service.sound_of_empty rfl rfl) (fun t ht => ?_) ?_
  · exact hcurrent t (List.mem_append_left _ ht)
  · -- nothing happens before 1970
    exact List.pairwise_cons.2 ⟨fun t ht => (hcurrent t ht).1, hordered⟩

theorem succeeds_scan (h : Signed64.Fits s.alertPolicy.ceiling) (job : ScanJob) :
    Service.Succeeds (s.service.scan job) := by
  have h1 := AlertPolicy.one_le_minutes s.alertThresholdSeconds s.alertLevels
  cases job with
  | alertBand => exact (Service.succeeds_alertAll (AlertPolicy.bands_eq h1 h)).guarded
  | sleepReminder => exact s.service.succeeds_remindAll.guarded

/-- Settings that make sense withstand every run exactly if every marker expires inside the calendar
and the last alert band ends inside 64 bits. -/
theorem withstands_iff (hvalid : s.fault? = none) (hword : s.markerTtlSeconds < 2 ^ 64) :
    s.Withstands ↔ s.MarkerFits ∧ Signed64.Fits s.alertPolicy.ceiling := by
  constructor
  · intro h
    by_contra hnot
    rcases not_and_or.1 hnot with hmarker | hceiling
    · -- the first activity of all cannot write its marker
      obtain ⟨t, ht, c, hc⟩ := after_crashed_of_not_markerFits hmarker
      refine h .empty [] t (List.pairwise_singleton _ _) (fun u hu => ?_)
        (.activity "ada") (.inl ⟨⟨"ada", .activity⟩, rfl⟩) c ?_
      · rwa [List.mem_singleton.1 hu]
      · rw [Service.perform, Memory.run_map, s.service.run_onActivity_of_crashed "ada" hc]
        rfl
    · -- the first scan of all cannot number its bands
      have hcrash := AlertPolicy.bands_of_not_fits
        (AlertPolicy.one_le_minutes s.alertThresholdSeconds s.alertLevels)
        (fault?_eq_none.1 hvalid).levels hceiling
      refine h .empty [] .epoch (List.pairwise_singleton _ _) (fun u hu => ?_)
        (.scan .alertBand) (.inr ⟨_, rfl⟩) .multiplication ?_
      · rw [List.mem_singleton.1 hu]
        decide
      · rw [Service.perform, Memory.run_map, Service.scan, Service.run_guarded_of_idle rfl,
          Service.run_alertAll_of_crashed hcrash]
        rfl
  · rintro ⟨hmarker, hceiling⟩ profiles arrivals last hordered hcurrent r hr c hcrash
    have hsound : s.service.Sound ((s.reached profiles arrivals).clockAt last) :=
      sound_reached hordered hcurrent
    have hlast : last.IsCurrent :=
      hcurrent last (List.mem_append_right _ (List.mem_singleton.2 rfl))
    suffices hok : (((s.reached profiles arrivals).clockAt last).run
        (s.service.perform r)).1.isOk = true by
      rw [hcrash] at hok
      cases hok
    rcases hr with ⟨e, rfl⟩ | ⟨job, rfl⟩
    · exact Service.Sound.event_isOk hsound hlast (hmarker.after hword hlast).choose_spec e
    · rw [Service.perform, Memory.run_map]
      exact Service.isOk_map (succeeds_scan hceiling job _) _

/-- The standard settings withstand every run. -/
theorem standard_withstands :
    ({} : Settings).fault? = none ∧ ({} : Settings).markerTtlSeconds < 2 ^ 64 ∧
      ({} : Settings).Withstands := by
  have hvalid : ({} : Settings).fault? = none := by decide
  have hword : ({} : Settings).markerTtlSeconds < 2 ^ 64 := by decide
  exact ⟨hvalid, hword, (withstands_iff hvalid hword).2 ⟨by decide, by decide +kernel⟩⟩

/-- Not all settings that make sense withstand every run: a marker may live too long. -/
theorem valid_not_withstands :
    ¬ ∀ s : Settings, s.fault? = none → s.markerTtlSeconds < 2 ^ 64 → s.Withstands := by
  intro h
  have hruns := h { markerTtlSeconds := 9223372036854776 } (by decide) (by decide)
  refine hruns .empty [] .epoch (List.pairwise_singleton _ _) (fun u hu => ?_)
    (.activity "ada") (.inl ⟨⟨"ada", .activity⟩, rfl⟩) .span ?_
  · rw [List.mem_singleton.1 hu]
    decide
  · rw [Service.perform, Memory.run_map, Service.run_onActivity_of_crashed _ "ada" (c := .span) rfl]
    rfl

end Settings

end Presence
