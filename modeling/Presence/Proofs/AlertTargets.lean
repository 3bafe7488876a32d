import Mathlib.Algebra.Order.Group.Int
import Mathlib.Algebra.Order.Ring.Int
import Presence.Proofs.Enumeration
import Presence.Scan

/-!
# Who is to be alerted

A pair of a bucket and a user is to be alerted if the bucket is in use and the score of the user in
it lies in a band. Main statements: the bands of a policy follow one another without a gap up to the
last one (`AlertPolicy.bands_eq`), going through the bands, through the buckets for each of them and
through the users for each of these meets every such pair once, by level, bucket, score and name
(`Service.targeted_targets`), and a user whose accrued time stands in one bucket is met once at most
(`Service.Targeted.countP_user`).
-/

set_option autoImplicit false

namespace Presence

namespace AlertBand

/-- The seconds of a level, where an alert period has a number of seconds. -/
def spanning (step : Int) (level : Nat) : AlertBand := ⟨level, level * step, (level + 1) * step⟩

variable {minutes : Int} {level : Nat}

theorem times_of_fits {a b : Int} (h : Signed64.Fits (a * b)) : times a b = .ok (a * b) := by
  unfold times
  rw [Signed64.mul?_eq_some.2 ⟨h, rfl⟩]
  rfl

/-- What is below a number of 64 bits and not negative is one. -/
theorem fits_of_le {a b : Int} (h0 : 0 ≤ a) (h : a ≤ b) (hb : Signed64.Fits b) :
    Signed64.Fits a := by
  unfold Signed64.Fits Signed64.least at *
  omega

theorem ofLevel_eq (h1 : 1 ≤ minutes) (hf : Signed64.Fits ((level + 1) * (minutes * 60))) :
    ofLevel level minutes = .ok (spanning (minutes * 60) level) := by
  have hstep : 0 ≤ minutes * 60 := by omega
  have hl : (0 : Int) ≤ level := Int.natCast_nonneg level
  -- the length of a period and the beginning of a band are below its end
  have hmin : Signed64.Fits (minutes * 60) :=
    fits_of_le hstep (le_mul_of_one_le_left hstep (by omega)) hf
  have hlow : Signed64.Fits (level * (minutes * 60)) :=
    fits_of_le (Int.mul_nonneg hl hstep) (Int.mul_le_mul_of_nonneg_right (by omega) hstep) hf
  unfold ofLevel
  rw [times_of_fits hmin, Outcome.andThen_ok, times_of_fits hlow, Outcome.andThen_ok,
    times_of_fits hf, Outcome.andThen_ok]
  rfl

theorem ofLevels_eq (h1 : 1 ≤ minutes) {n : Nat} :
    ∀ {first : Nat}, Signed64.Fits ((first + n) * (minutes * 60)) →
      ofLevels minutes first n = .ok ((List.range' first n).map (spanning (minutes * 60))) := by
  induction n with
  | zero => exact fun _ => rfl
  | succ n ih =>
      intro first hf
      have hstep : 0 ≤ minutes * 60 := by omega
      have hfirst : Signed64.Fits ((first + 1) * (minutes * 60)) := by
        refine fits_of_le (Int.mul_nonneg (by omega) hstep) ?_ hf
        exact Int.mul_le_mul_of_nonneg_right (by omega) hstep
      have hrest : Signed64.Fits (((first + 1 : Nat) + n) * (minutes * 60)) := by
        have he : ((first + 1 : Nat) : Int) + n = first + (n + 1 : Nat) := by omega
        rw [he]
        exact hf
      unfold ofLevels
      rw [ofLevel_eq h1 hfirst, Outcome.andThen_ok, ih hrest]
      rfl

/-- A band begins at a whole number of minutes. -/
theorem elapsedMinutes_spanning (minutes : Int) (level : Nat) :
    (spanning (minutes * 60) level).elapsedMinutes = level * minutes := by
  unfold elapsedMinutes spanning
  rw [← Int.mul_assoc]
  exact Int.mul_tdiv_cancel _ (by decide)

end AlertBand

namespace AlertPolicy

variable (p : AlertPolicy)

/-- The seconds of an alert period. -/
def step : Int := p.minutes * 60

/-- The seconds at which the last band ends. -/
def ceiling : Int := (p.levels + 1) * p.step

/-- A number of seconds lies in a band of the policy. -/
def Covers (seconds : Int) : Prop := p.step ≤ seconds ∧ seconds < p.ceiling

instance (seconds : Int) : Decidable (p.Covers seconds) := inferInstanceAs (Decidable (_ ∧ _))

/-- The number of whole alert periods in a number of seconds. -/
def levelOf (seconds : Int) : Int := seconds / p.step

variable {p}

theorem step_pos (h : 1 ≤ p.minutes) : 0 < p.step := by
  unfold step
  omega

/-- The bands of a policy are those of the levels from one on. -/
theorem bands_eq (h1 : 1 ≤ p.minutes) (hf : Signed64.Fits p.ceiling) :
    p.bands = .ok ((List.range' 1 p.levels).map (AlertBand.spanning p.step)) := by
  refine AlertBand.ofLevels_eq h1 ?_
  have he : ((1 : Nat) : Int) + p.levels = p.levels + 1 := by omega
  rw [he]
  exact hf

/-- A level is that of the seconds from its number of periods up to the next. -/
theorem levelOf_eq_iff (h : 1 ≤ p.minutes) {seconds level : Int} :
    p.levelOf seconds = level ↔ level * p.step ≤ seconds ∧ seconds < (level + 1) * p.step := by
  have hs := step_pos h
  rw [← Int.le_ediv_iff_mul_le hs, ← Int.ediv_lt_iff_lt_mul hs]
  unfold levelOf
  omega

/-- The bands cover what has a level from one up to the last. -/
theorem covers_iff (h : 1 ≤ p.minutes) {seconds : Int} :
    p.Covers seconds ↔ 1 ≤ p.levelOf seconds ∧ p.levelOf seconds ≤ p.levels := by
  have hs := step_pos h
  unfold Covers ceiling levelOf
  rw [← Int.ediv_lt_iff_lt_mul hs, Int.le_ediv_iff_mul_le hs, Int.one_mul]
  omega

end AlertPolicy

namespace Service

variable (s : Service) (t : Store)

/-- The score of a user in a bucket. -/
def scoreOf (p : Int × String) : Int := t.getScore (s.keys.accrualSet p.1) p.2

/-- The level at which a user is alerted for a bucket. -/
def levelAt (p : Int × String) : Int := s.alerts.levelOf (s.scoreOf t p)

/-- A bucket is in use: the default one, and every positive integer that is listed with a score from
one on. -/
def InUse (b : Int) : Prop :=
  b = s.defaultRange ∨ 0 < b ∧ ∃ name x,
    (t.members s.keys.bucketIndex).get? name = some x ∧ 1 ≤ x ∧ Text.readSigned64? name = some b

/-- One pair comes before another: by level, bucket, score and name. -/
def AlertedBefore (p q : Int × String) : Prop :=
  s.levelAt t p < s.levelAt t q ∨ s.levelAt t p = s.levelAt t q ∧ (p.1 < q.1 ∨ p.1 = q.1 ∧
    (s.scoreOf t p < s.scoreOf t q ∨ s.scoreOf t p = s.scoreOf t q ∧ compare p.2 q.2 = .lt))

/-- These are the pairs of a bucket and a user to be alerted, each once and in order. -/
structure Targeted (ps : List (Int × String)) : Prop where
  mem_iff : ∀ b u, (b, u) ∈ ps ↔ s.InUse t b ∧ s.alerts.Covers (s.scoreOf t (b, u))
  ordered : ps.Pairwise (s.AlertedBefore t)

/-- The alert for a user and a bucket. -/
def alertOf (p : Int × String) : Notification :=
  let level := (s.levelAt t p).toNat
  (Notification.ofTemplate p.2 (.onlineTimeAlert level))
    |>.withParam "alertMinutes" (.int s.alerts.minutes)
    |>.withParam "level" (.int level)
    |>.withParam "elapsedMinutes" (.int (level * s.alerts.minutes))

/-- The buckets in use, in ascending order. -/
def bucketsIn : List Int := s.bucketsOf (t.rangeByScore s.keys.bucketIndex 1 none)

/-- The users of a bucket whose score lies in a band. -/
def usersIn (band : AlertBand) (b : Int) : List String :=
  t.rangeByScore (s.keys.accrualSet b) band.low (some band.high)

/-- The pairs that the scan meets in a band. -/
def targetsIn (band : AlertBand) : List (Int × String) :=
  (s.bucketsIn t).flatMap fun b => (s.usersIn t band b).map fun u => (b, u)

/-- The pairs that the scan meets. -/
def targets : List (Int × String) :=
  ((List.range' 1 s.alerts.levels).map (AlertBand.spanning s.alerts.step)).flatMap (s.targetsIn t)

variable {s t}

theorem mem_bucketsIn {b : Int} : b ∈ s.bucketsIn t ↔ s.InUse t b := by
  unfold bucketsIn InUse
  rw [mem_bucketsOf]
  refine or_congr_right (and_congr_right fun _ => exists_congr fun name => ?_)
  rw [Store.mem_rangeByScore, ← exists_and_right]
  refine exists_congr fun x => ?_
  simp only [reduceCtorEq, false_implies, implies_true, and_true, and_assoc]

/-- A score from one on is that of a member. -/
theorem mem_usersIn {band : AlertBand} {b : Int} {u : String} (h : 0 < band.low) :
    u ∈ s.usersIn t band b ↔
      band.low ≤ s.scoreOf t (b, u) ∧ s.scoreOf t (b, u) < band.high := by
  unfold usersIn scoreOf
  rw [Store.mem_rangeByScore, Store.getScore_eq]
  cases (t.members (s.keys.accrualSet b)).get? u with
  | none =>
      refine iff_of_false ?_ ?_
      · rintro ⟨x, hx, -⟩
        cases hx
      · rintro ⟨hx, -⟩
        rw [Option.getD_none] at hx
        omega
  | some x => simp

section Levels

variable (h1 : 1 ≤ s.alerts.minutes)

include h1

/-- The users whom the scan meets in the band of a level are those with this level. -/
theorem mem_usersIn_spanning {level : Nat} (hl : 1 ≤ level) {b : Int} {u : String} :
    u ∈ s.usersIn t (.spanning s.alerts.step level) b ↔ s.levelAt t (b, u) = level := by
  have hlow : 0 < (level : Int) * s.alerts.step :=
    Int.mul_pos (by omega) (AlertPolicy.step_pos h1)
  rw [mem_usersIn hlow]
  exact (AlertPolicy.levelOf_eq_iff h1).symm

theorem mem_targetsIn {level : Nat} (hl : 1 ≤ level) {p : Int × String} :
    p ∈ s.targetsIn t (.spanning s.alerts.step level) ↔
      s.InUse t p.1 ∧ s.levelAt t p = level := by
  obtain ⟨b, u⟩ := p
  unfold targetsIn
  rw [List.mem_flatMap, ← mem_bucketsIn, ← mem_usersIn_spanning h1 hl]
  constructor
  · rintro ⟨b', hb, hu⟩
    obtain ⟨u', hu', he⟩ := List.mem_map.1 hu
    cases he
    exact ⟨hb, hu'⟩
  · rintro ⟨hb, hu⟩
    exact ⟨b, hb, List.mem_map.2 ⟨u, hu, rfl⟩⟩

theorem mem_targets {p : Int × String} :
    p ∈ s.targets t ↔ s.InUse t p.1 ∧ s.alerts.Covers (s.scoreOf t p) := by
  unfold targets
  rw [List.flatMap_map, List.mem_flatMap, AlertPolicy.covers_iff h1]
  constructor
  · rintro ⟨level, hlevel, hp⟩
    rw [List.mem_range'_1] at hlevel
    obtain ⟨hb, hl⟩ := (mem_targetsIn h1 hlevel.1).1 hp
    refine ⟨hb, ?_⟩
    rw [show s.alerts.levelOf _ = level from hl]
    omega
  · rintro ⟨hb, hl⟩
    -- the band of a pair is that of its level
    obtain ⟨level, he⟩ := Int.eq_ofNat_of_zero_le (show 0 ≤ s.levelAt t p by
      unfold levelAt
      omega)
    have hl' : 1 ≤ (level : Int) ∧ (level : Int) ≤ s.alerts.levels := by
      rw [← he]
      exact hl
    exact ⟨level, List.mem_range'_1.2 (by omega), (mem_targetsIn h1 (by omega)).2 ⟨hb, he⟩⟩

/-- In a band the pairs are met by bucket, score and name. -/
theorem targetsIn_pairwise {level : Nat} (hl : 1 ≤ level) :
    (s.targetsIn t (.spanning s.alerts.step level)).Pairwise (s.AlertedBefore t) := by
  have hlevel {p q : Int × String} (hp : p ∈ s.targetsIn t (.spanning s.alerts.step level))
      (hq : q ∈ s.targetsIn t (.spanning s.alerts.step level)) : s.levelAt t p = s.levelAt t q :=
    ((mem_targetsIn h1 hl).1 hp).2.trans ((mem_targetsIn h1 hl).1 hq).2.symm
  suffices (s.targetsIn t (.spanning s.alerts.step level)).Pairwise fun p q =>
      p.1 < q.1 ∨ p.1 = q.1 ∧ (s.scoreOf t p < s.scoreOf t q ∨
        s.scoreOf t p = s.scoreOf t q ∧ compare p.2 q.2 = .lt) from
    this.imp_of_mem fun hp hq h => .inr ⟨hlevel hp hq, h⟩
  unfold targetsIn
  rw [List.pairwise_flatMap]
  refine ⟨fun b _ => ?_, (s.bucketsOf_pairwise _).imp fun {b c} hbc p hp q hq => ?_⟩
  · exact List.pairwise_map.2 ((t.rangeByScore_pairwise _ _ _).imp fun h => .inr ⟨rfl, h⟩)
  · obtain ⟨u, -, rfl⟩ := List.mem_map.1 hp
    obtain ⟨v, -, rfl⟩ := List.mem_map.1 hq
    exact .inl hbc

theorem targets_pairwise : (s.targets t).Pairwise (s.AlertedBefore t) := by
  unfold targets
  rw [List.flatMap_map, List.pairwise_flatMap]
  refine ⟨fun level hlevel => targetsIn_pairwise h1 (List.mem_range'_1.1 hlevel).1, ?_⟩
  -- a lower level comes first
  refine List.Pairwise.imp_of_mem (fun {k l} hk hl hkl p hp q hq => .inl ?_)
    List.pairwise_lt_range'
  rw [((mem_targetsIn h1 (List.mem_range'_1.1 hk).1).1 hp).2,
    ((mem_targetsIn h1 (List.mem_range'_1.1 hl).1).1 hq).2]
  exact Int.ofNat_lt.2 hkl

/-- The scan meets every pair that is to be alerted, each once and in order. -/
theorem targeted_targets : s.Targeted t (s.targets t) :=
  ⟨fun _ _ => mem_targets h1, targets_pairwise h1⟩

/-- The alert that the scan sends in a band is the one for the bucket and the user. -/
theorem alertFor_eq {level : Nat} (hl : 1 ≤ level) {b : Int} {u : String}
    (hu : u ∈ s.usersIn t (.spanning s.alerts.step level) b) :
    s.alertFor u (.spanning s.alerts.step level) = s.alertOf t (b, u) := by
  have hlevel : (s.levelAt t (b, u)).toNat = level := by
    rw [(mem_usersIn_spanning h1 hl).1 hu]
    exact Int.toNat_natCast level
  unfold alertFor alertOf
  rw [hlevel, show s.alerts.step = s.alerts.minutes * 60 from rfl,
    AlertBand.elapsedMinutes_spanning]
  rfl

end Levels

/-! ## The pairs of one user -/

variable {ps : List (Int × String)}

theorem not_alertedBefore_self (p : Int × String) : ¬ s.AlertedBefore t p p := by
  intro h
  rcases h with h | ⟨-, h | ⟨-, h | ⟨-, h⟩⟩⟩
  · omega
  · omega
  · omega
  · rw [Std.ReflOrd.compare_self] at h
    cases h

theorem Targeted.nodup (h : s.Targeted t ps) : ps.Nodup := by
  refine h.ordered.imp ?_
  rintro p _ hpp rfl
  exact not_alertedBefore_self p hpp

/-- A user whose scores are in order is alerted for one bucket at most, and exactly if a band covers
the score in the bucket of the user. -/
theorem Targeted.countP_user {m : Memory} {user : String} (h : s.Targeted m.store ps)
    (h1 : 1 ≤ s.alerts.minutes) (hp : s.PlacedFor m user) :
    ps.countP (fun p => p.2 = user) =
      if s.alerts.Covers (m.store.getScore (s.keys.accrualSet (s.rangeIn user m)) user)
        then 1 else 0 := by
  have hheld {b : Int} (hc : s.alerts.Covers (s.scoreOf m.store (b, user))) :
      ∃ x, s.held? m b user = some x := by
    by_contra hnone
    have hzero : s.scoreOf m.store (b, user) = 0 :=
      getScore_eq_zero fun x hx => hnone ⟨x, hx⟩
    have hstep := AlertPolicy.step_pos h1
    rw [hzero] at hc
    exact absurd hc.1 (by omega)
  have hhome : ∀ p ∈ ps, p.2 = user ↔ p = (s.rangeIn user m, user) := by
    rintro ⟨b, u⟩ hmem
    constructor
    · rintro rfl
      obtain ⟨x, hx⟩ := hheld ((h.mem_iff b u).1 hmem).2
      rw [hp.eq_rangeIn hx]
    · intro e
      rw [e]
  have hcount : ps.countP (fun p => p.2 = user) = ps.count (s.rangeIn user m, user) := by
    refine List.countP_congr fun p hmem => ?_
    simpa using hhome p hmem
  have hmem : (s.rangeIn user m, user) ∈ ps ↔
      s.alerts.Covers (m.store.getScore (s.keys.accrualSet (s.rangeIn user m)) user) := by
    rw [h.mem_iff]
    refine and_iff_right_of_imp fun hc => ?_
    -- a bucket in which the user has a score is in use
    obtain ⟨x, hx⟩ := hheld hc
    exact mem_bucketsIn.1 (hp.mem_bucketsOf (hp.held _ _ hx).2)
  rw [hcount, List.Nodup.count h.nodup]
  exact if_congr hmem rfl rfl

end Service

end Presence
