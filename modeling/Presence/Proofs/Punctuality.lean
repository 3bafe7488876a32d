import Mathlib.Data.List.Sort
import Presence.Proofs.TimerPlaces

/-!
# Jobs are started on time

Every tick is judged at its time, for time passes only while the loops wait. Main statements:
`Timers.exists_time`, time can always go on, and `Timers.play_starts_jobs_when_due`: whatever the
order in which everybody takes turns, each job is started at exactly those times at which it is due.
-/

set_option autoImplicit false

namespace Presence

/-- A move that is made without the runs and without anybody else: of a loop, of the writers, of the
signal to stop, or of time. -/
def TimerMove.isOfScheduler : TimerMove → Bool
  | .run _ _ => false
  | .elsewhere _ => false
  | _ => true

namespace Timers

variable {c : Course} {P : Timers} {job : ScanJob}

/-! ## Nothing gets stuck -/

theorem play_append (as bs : List TimerMove) (P : Timers) :
    play c (as ++ bs) P = play c bs (play c as P) := by
  induction as generalizing P with
  | nil => rfl
  | cons a as ih => exact ih (P.move c a)

theorem Beside.trans {P' P'' : Timers} (h : Beside P P' job) (h' : Beside P' P'' job) :
    Beside P P'' job where
  time := h'.time.trans h.time
  memory := h'.memory.trans h.memory
  told := h'.told.trans h.told
  writes := h'.writes.trans h.writes
  timers j hj := (h'.timers j hj).trans (h.timers j hj)
  timesOf j hj := (h'.timesOf j hj).trans (h.timesOf j hj)

/-- The loop of a job comes to rest by itself. -/
def Rests (c : Course) (P : Timers) (job : ScanJob) : Prop :=
  ∃ n : Nat, Beside P (play c (List.replicate n (.timer job false)) P) job ∧
    (play c (List.replicate n (.timer job false)) P).isReady job = false

theorem Rests.of_not_ready (h : P.isReady job = false) : Rests c P job :=
  ⟨0, ⟨rfl, rfl, rfl, rfl, fun _ _ => rfl, fun _ _ => rfl⟩, h⟩

theorem Rests.of_goOn {P' : Timers} (h : Rests c P' job) (hb : Beside P P' job)
    (hgo : P.goOn c job false = P') : Rests c P job := by
  obtain ⟨n, hn, hrest⟩ := h
  subst hgo
  exact ⟨n + 1, hb.trans hn, hrest⟩

theorem Rests.of_withTimer (h : Steady c P) (hc : c.Fair) {T : Timer}
    (hgo : P.goOn c job false = P.withTimer job T)
    (hnext : ∀ {Q : Timers}, Steady c Q → Q.timers job = T → Rests c Q job) : Rests c P job :=
  (hnext (hgo ▸ h.goOn hc job false) (timers_withTimer P job T)).of_goOn
    (beside_withTimer P job T) hgo

section Resting

variable {d : Nat}

theorem rests_of_checking (h : Steady c P) (hT : P.timers job = ⟨.checking, d⟩) :
    Rests c P job := by
  have hstands := h.stands job
  rw [hT] at hstands
  cases hstands with
  | checking _ hlt _ =>
      have hgo : P.goOn c job false =
          P.withTimer job ⟨if P.told then .stopped else .waiting, d⟩ := by
        unfold goOn
        rw [hT]
      refine Rests.of_goOn (.of_not_ready ?_) (beside_withTimer P job _) hgo
      unfold isReady
      rw [timers_withTimer]
      cases htold : P.told with
      | true => rfl
      | false =>
          show (P.told || decide (d ≤ P.time)) = false
          rw [htold, decide_eq_false (Nat.not_le.2 hlt)]
          rfl

/-- Whatever a tick comes to, the loop looks next whether it has been told to stop. -/
theorem goOn_done {o : Outcome Service.Tick} (hT : P.timers job = ⟨.judging (.done o), d⟩)
    (ho : ∀ x, o ≠ .crashed x) :
    Beside P (P.goOn c job false) job ∧ (P.goOn c job false).timers job = ⟨.checking, d⟩ := by
  unfold goOn
  rw [hT]
  cases o with
  | ok verdict =>
      cases verdict with
      | due => exact ⟨beside_start c P job _, timers_withTimer _ job _⟩
      | disabled => exact ⟨beside_withTimer P job _, timers_withTimer P job _⟩
      | outsideWindow => exact ⟨beside_withTimer P job _, timers_withTimer P job _⟩
  | failed e => exact ⟨beside_withTimer P job _, timers_withTimer P job _⟩
  | crashed x => exact absurd rfl (ho x)

theorem rests_of_judging (hc : c.Fair) {rest : Operation Service.Tick} :
    ∀ {P : Timers}, Steady c P → P.timers job = ⟨.judging rest, d⟩ → Rests c P job := by
  induction rest with
  | done o =>
      intro P h hT
      have hstands := h.stands job
      rw [hT] at hstands
      cases hstands with
      | judging htick _ _ hj =>
          obtain ⟨hb, hchecking⟩ := goOn_done (c := c) hT (hj.sound P.memory (h.shows hc htick))
          exact (rests_of_checking (h.goOn hc job false) hchecking).of_goOn hb rfl
  | call call next ih =>
      intro P h hT
      have hstands := h.stands job
      rw [hT] at hstands
      cases hstands with
      | judging htick _ _ hj =>
          have hshows := h.shows hc htick
          have hmemory := (Course.answering_judging hj.only.1 hshows hshows).2
          have hgo : P.goOn c job false = P.withTimer job
              ⟨.judging (next (c.answering job P.time call P.memory).1),
                P.time + c.period job⟩ := by
            unfold goOn
            rw [hT]
            dsimp only
            rw [hmemory]
            rfl
          exact .of_withTimer h hc hgo (ih _)

/-- The loop of a job comes to rest. -/
theorem Steady.rests (h : Steady c P) (hc : c.Fair) (job : ScanJob) : Rests c P job := by
  have hstands := h.stands job
  cases hT : P.timers job with
  | mk phase d =>
  rw [hT] at hstands
  cases hstands with
  | starting hzero hs =>
      have hgo : P.goOn c job false = P.withTimer job ⟨.checking, P.time + c.period job⟩ := by
        unfold Timers.goOn
        rw [hT]
      exact .of_withTimer h hc hgo rests_of_checking
  | checking htick hlt hs => exact rests_of_checking h hT
  | waiting htick hle hs =>
      by_cases hready : P.isReady job = false
      · exact .of_not_ready hready
      · have hready' : P.told = true ∨ d ≤ P.time := by
          unfold isReady at hready
          rw [hT] at hready
          simpa [Bool.or_eq_true] using Bool.eq_true_of_not_eq_false hready
        by_cases hgone : d ≤ P.time
        · -- the timer has gone off
          have hgo : P.goOn c job false = P.withTimer job
              ⟨.judging (c.tick job), Timer.following d (c.period job) P.time⟩ := by
            unfold Timers.goOn
            rw [hT]
            simp [hgone]
          exact .of_withTimer h hc hgo (rests_of_judging hc)
        · -- the loop has been told to stop
          have hgo : P.goOn c job false = P.withTimer job ⟨.checking, d⟩ := by
            unfold Timers.goOn
            rw [hT]
            simp [hready'.resolve_right hgone, Nat.lt_of_not_le hgone]
          exact .of_withTimer h hc hgo rests_of_checking
  | judging htick htold hs hj => exact rests_of_judging hc h hT
  | stopped htold hs =>
      refine .of_not_ready ?_
      unfold isReady
      rw [hT]

end Resting

theorem isReady_congr {P' : Timers} (htime : P'.time = P.time) (htold : P'.told = P.told)
    (hT : P'.timers job = P.timers job) : P'.isReady job = P.isReady job := by
  unfold isReady
  rw [htime, htold, hT]

/-- All loops come to rest before time passes. -/
theorem exists_atRest (h : Steady c P) (hc : c.Fair) :
    ∃ as : List TimerMove, (∀ a ∈ as, a.isOfScheduler = true) ∧ (play c as P).time = P.time ∧
      (play c as P).told = P.told ∧ (play c as P).writes = P.writes ∧
        ∀ job, (play c as P).isReady job = false := by
  obtain ⟨n, hn, hrest⟩ := h.rests hc .alertBand
  have hsteady := h.play hc (List.replicate n (.timer .alertBand false))
  obtain ⟨k, hk, hrest'⟩ := hsteady.rests hc .sleepReminder
  refine ⟨List.replicate n (.timer .alertBand false) ++
    List.replicate k (.timer .sleepReminder false), ?_, ?_⟩
  · intro a ha
    rcases List.mem_append.1 ha with ha | ha <;> rw [List.eq_of_mem_replicate ha] <;> rfl
  · rw [play_append]
    refine ⟨hk.time.trans hn.time, hk.told.trans hn.told, hk.writes.trans hn.writes, fun job => ?_⟩
    cases job with
    | alertBand =>
        rw [isReady_congr hk.time hk.told (hk.timers _ (by decide))]
        exact hrest
    | sleepReminder => exact hrest'

theorem instant?_isSome_of_le {u t : Nat} (h : (c.instant? t).isSome = true) (hle : u ≤ t) :
    (c.instant? u).isSome = true := by
  obtain ⟨later, hlater⟩ := Option.isSome_iff_exists.1 h
  have hmillis := Instant.ofMillis?_eq_some.1 hlater
  have hlater' := later.inRange.2
  have hstart := c.memory.clock.now.inRange.1
  unfold Course.instant? Instant.ofMillis?
  rw [dif_pos (by omega)]
  rfl

/-- Once all loops wait and nothing is to be done at a time, time goes on. -/
theorem mayPass_succ (hrest : ∀ job, P.isReady job = false)
    (hwrites : ∀ w ∈ P.writes, P.time < w.time) (hshut : P.told = true ∨ P.time < c.shutdown) :
    P.mayPass c (P.time + 1) = true := by
  simp only [mayPass, Bool.and_eq_true, decide_eq_true_eq, List.all_eq_true, Bool.or_eq_true,
    Bool.not_eq_true']
  refine ⟨⟨⟨Nat.le_succ _, hshut⟩, hwrites⟩, fun job _ => ⟨hrest job, ?_⟩⟩
  rcases stopped_or_waiting (hrest job) with hstopped | ⟨-, d, hT, hlt⟩
  · rw [hstopped]
  · rw [hT]
    exact decide_eq_true hlt

/-- What is still to be done up to a time. -/
def remaining (P : Timers) (t : Nat) : Nat :=
  t - P.time + P.writes.length + if P.told then 0 else 1

/-- Once all loops wait a text is written, the loops are told to stop, or time goes on. -/
theorem exists_move (h : Steady c P) (hc : c.Fair) (hrest : ∀ job, P.isReady job = false) {t : Nat}
    (ht : (c.instant? t).isSome = true) (hlt : P.time < t) :
    ∃ a : TimerMove, a.isOfScheduler = true ∧ (P.move c a).time ≤ t ∧
      (P.move c a).remaining t < P.remaining t := by
  by_cases hhead : ∃ w ∈ P.writes.head?, w.time ≤ P.time
  · obtain ⟨w, hw, hdue⟩ := hhead
    obtain ⟨rest, hwrites⟩ := List.head?_eq_some_iff.1 hw
    have hmove : P.move c .write =
        { P with
          memory := (P.memory.run (Operation.setString (c.key w.job) w.text none)).2
          writes := rest } := by
      simp only [move, hwrites, if_pos hdue]
    refine ⟨.write, rfl, ?_⟩
    rw [hmove]
    unfold remaining
    rw [hwrites, List.length_cons]
    exact ⟨Nat.le_of_lt hlt, by dsimp only; omega⟩
  by_cases hshut : P.told = false ∧ c.shutdown ≤ P.time
  · obtain ⟨htold, hshut⟩ := hshut
    refine ⟨.tell, rfl, ?_⟩
    rw [show P.move c .tell = { P with told := true } from if_pos hshut]
    unfold remaining
    rw [htold]
    exact ⟨Nat.le_of_lt hlt, Nat.lt_succ_self _⟩
  · have hwrites : ∀ w ∈ P.writes, P.time < w.time := by
      obtain ⟨before, heq, -⟩ := h.written
      have hordered := (List.pairwise_append.1 (heq ▸ hc.ordered)).2.1
      intro w hw
      cases hcons : P.writes with
      | nil => rw [hcons] at hw; cases hw
      | cons v rest =>
          -- the first write that is to come is later, and so are all
          have hv : P.time < v.time :=
            Nat.lt_of_not_le fun hle => hhead ⟨v, by rw [hcons]; rfl, hle⟩
          rw [hcons] at hw hordered
          rcases List.mem_cons.1 hw with rfl | hw
          · exact hv
          · exact Nat.lt_of_lt_of_le hv ((List.pairwise_cons.1 hordered).1 w hw)
    have htold : P.told = true ∨ P.time < c.shutdown := by
      cases htold : P.told with
      | true => exact .inl rfl
      | false => exact .inr (Nat.lt_of_not_le fun hle => hshut ⟨htold, hle⟩)
    obtain ⟨now, hnow⟩ := Option.isSome_iff_exists.1
      (instant?_isSome_of_le ht (Nat.succ_le_of_lt hlt))
    have hmove : P.move c (.pass (P.time + 1)) =
        { P with time := P.time + 1, memory := P.memory.clockAt now } := by
      simp only [move, hnow, if_pos (mayPass_succ hrest hwrites htold)]
    refine ⟨.pass (P.time + 1), rfl, ?_⟩
    rw [hmove]
    unfold remaining
    exact ⟨hlt, by dsimp only; omega⟩

/-- Time can always go on, without a step of the runs or of anybody else. -/
theorem exists_time (hc : c.Fair) {t : Nat} (ht : (c.instant? t).isSome = true) (n : Nat) :
    ∀ {P : Timers}, Steady c P → P.time ≤ t → P.remaining t ≤ n →
      ∃ as : List TimerMove, (∀ a ∈ as, a.isOfScheduler = true) ∧ (play c as P).time = t ∧
        ∀ job, (play c as P).isReady job = false := by
  -- every round brings time forward, writes a text or tells the loops to stop
  induction n with
  | zero =>
      intro P h hle hn
      obtain ⟨as, hown, htime, -, -, hrest⟩ := exists_atRest h hc
      unfold remaining at hn
      exact ⟨as, hown, by omega, hrest⟩
  | succ n ih =>
      intro P h hle hn
      obtain ⟨as, hown, htime, htold, hwrites, hrest⟩ := exists_atRest h hc
      rcases Nat.lt_or_eq_of_le hle with hlt | hdone
      · have hsteady := h.play hc as
        obtain ⟨a, ha, hnext, hless⟩ := exists_move hsteady hc hrest ht (htime ▸ hlt)
        have hsame : (play c as P).remaining t = P.remaining t := by
          unfold remaining
          rw [htime, htold, hwrites]
        obtain ⟨bs, hbs, htime', hrest'⟩ := ih (hsteady.move hc a) hnext (by omega)
        refine ⟨as ++ a :: bs,
          List.forall_mem_append.2 ⟨hown, List.forall_mem_cons.2 ⟨ha, hbs⟩⟩, ?_⟩
        rw [play_append]
        exact ⟨htime', hrest'⟩
      · exact ⟨as, hown, htime.trans hdone, hrest⟩

/-! ## The starts of a job -/

/-- What can be said at a moment about the times at which the jobs were started. -/
structure Punctual (c : Course) (P : Timers) : Prop where
  /-- There is one run for each start. -/
  begun : P.runs.map (·.job) = P.log.map (·.1)
  /-- A job is started at most once at a time. -/
  increasing : ∀ job, (P.timesOf job).Pairwise (· < ·)
  /-- It is started only when it is due. -/
  due : ∀ job t, t ∈ P.timesOf job → c.Due job t ∧ t ≤ P.time
  /-- No time at which it is due is left out: it was started at all that have passed, and at the
  present one as soon as its loop waits. -/
  complete : ∀ job t, c.Due job t → t < P.time ∨ t = P.time ∧ P.isReady job = false →
    t ∈ P.timesOf job
  /-- Nothing else counts: not the order of turns, the runs, the other job, or anybody else. -/
  alike : ∀ (c' : Course) (as : List TimerMove) (job : ScanJob), c'.Fair → c.Alike c' job →
    let P' := play c' as (atStart c')
    P'.time = P.time → P.isReady job = false → P'.isReady job = false →
      P'.timesOf job = P.timesOf job
  /-- Time can go on up to any time of the calendar, even if no run makes another step. -/
  goesOn : ∀ t, P.time ≤ t → (c.instant? t).isSome = true →
    ∃ as : List TimerMove, (∀ a ∈ as, a.isOfScheduler = true) ∧ (play c as P).time = t ∧
      ∀ job, (play c as P).isReady job = false

theorem mem_timesOf {t : Nat} : t ∈ P.timesOf job ↔ (job, t) ∈ P.log := by
  unfold timesOf
  simp only [List.mem_map, List.mem_filter, decide_eq_true_eq]
  constructor
  · rintro ⟨⟨j, u⟩, ⟨hmem, rfl⟩, rfl⟩
    exact hmem
  · exact fun h => ⟨(job, t), ⟨h, rfl⟩, rfl⟩

/-- The starts that the place of a loop shows. -/
theorem Steady.settled (h : Steady c P) (job : ScanJob) :
    (P.timesOf job).Pairwise (· < ·) ∧ (∀ t ∈ P.timesOf job, c.Due job t) ∧
      ∀ t, c.Due job t → t < P.time ∨ t = P.time ∧ P.isReady job = false → t ∈ P.timesOf job := by
  have hstands := h.stands job
  unfold isReady
  generalize P.timers job = T at hstands
  have hof {b : Nat} (hs : c.Settled job b (P.timesOf job)) {p : Nat → Prop}
      (hp : ∀ t, c.Due job t → p t → t < b) :
      (P.timesOf job).Pairwise (· < ·) ∧ (∀ t ∈ P.timesOf job, c.Due job t) ∧
        ∀ t, c.Due job t → p t → t ∈ P.timesOf job :=
    ⟨hs.increasing, fun t ht => ((hs.mem_iff t).1 ht).1,
      fun t hdue ht => (hs.mem_iff t).2 ⟨hdue, hp t hdue ht⟩⟩
  cases hstands with
  | starting hzero hs =>
      refine hof hs fun t hdue ht => ?_
      rcases ht with ht | ⟨-, hready⟩
      · omega
      · cases hready
  | checking htick hlt hs =>
      refine hof hs fun t hdue ht => ?_
      rcases ht with ht | ⟨-, hready⟩
      · omega
      · cases hready
  | waiting htick hle hs =>
      refine hof hs fun t hdue ht => ?_
      rcases ht with ht | ⟨rfl, hready⟩
      · omega
      · rw [Bool.or_eq_false_iff] at hready
        exact Nat.lt_of_not_le (of_decide_eq_false hready.2)
  | judging htick htold hs hj =>
      refine hof hs fun t hdue ht => ?_
      rcases ht with ht | ⟨-, hready⟩
      · exact ht
      · cases hready
  | stopped htold hs => exact hof hs fun t hdue _ => hdue.before

/-- Once its loop waits a job has been started at exactly the times up to now at which it is due. -/
theorem Steady.mem_timesOf_iff (h : Steady c P) (hrest : P.isReady job = false) {t : Nat} :
    t ∈ P.timesOf job ↔ c.Due job t ∧ t ≤ P.time := by
  obtain ⟨-, hdue, hcomplete⟩ := h.settled job
  constructor
  · exact fun ht => ⟨hdue t ht, h.logged _ (mem_timesOf.1 ht)⟩
  · rintro ⟨ht, hle⟩
    exact hcomplete t ht ((Nat.lt_or_eq_of_le hle).imp_right fun he => ⟨he, hrest⟩)

/-- Whatever the order in which everybody takes turns, each job is started at exactly the times at
which it is due. -/
theorem play_starts_jobs_when_due (hc : c.Fair) (as : List TimerMove) :
    Punctual c (play c as (atStart c)) := by
  have h := (steady_atStart hc).play hc as
  exact
    { begun := h.begun
      increasing := fun job => (h.settled job).1
      due := fun job t ht => ⟨(h.settled job).2.1 t ht, h.logged _ (mem_timesOf.1 ht)⟩
      complete := fun job => (h.settled job).2.2
      alike := fun c' bs job hc' halike htime hrest hrest' => by
        have h' := (steady_atStart hc').play hc' bs
        refine List.Pairwise.eq_of_mem_iff (h'.settled job).1 (h.settled job).1 fun t => ?_
        rw [h'.mem_timesOf_iff hrest', h.mem_timesOf_iff hrest, htime, halike.due_iff]
      goesOn := fun t hle ht => exists_time hc ht _ h hle (Nat.le_refl _) }

/-- A clock that is put forward by an hour at 22:30:40. -/
def summerClock : Zone := ⟨"Summer", 0, [(1792362640, 3600)]⟩

/-- An evening from 22:28 on, with the window of the reminders from 23 to 6, which is reached when
the clock is put forward. The alerts are switched off for a while, and one reading of their switch
fails. -/
def lateEvening : Course where
  settings := { alertScanIntervalSeconds := 60, sleepScanIntervalSeconds := 90,
                timezone := summerClock }
  memory := { clock := ⟨⟨1792362480000, by decide⟩, false⟩ }
  writes := [⟨30000, .alertBand, " OFF "⟩, ⟨130000, .alertBand, "yes"⟩]
  refused job time :=
    if job = .alertBand ∧ time = 180000 then some (.reported "timeout") else none
  shutdown := 400000

/-- Its first three minutes. The run that is started in the last one crashes. -/
def firstMinutes : List TimerMove :=
  let goOn (job : ScanJob) (n : Nat) : List TimerMove := List.replicate n (.timer job false)
  goOn .alertBand 2 ++ goOn .sleepReminder 2 ++ [.pass 30000, .write, .pass 60000] ++
    goOn .alertBand 5 ++ [.pass 90000] ++ goOn .sleepReminder 4 ++ [.pass 120000] ++
    goOn .alertBand 5 ++ [.pass 130000, .write, .pass 180000] ++ goOn .sleepReminder 5 ++
    [.run 0 none, .run 0 (some (.crash .addition))] ++ goOn .alertBand 5

theorem fair_lateEvening : lateEvening.Fair where
  ticks job := by cases job <;> decide
  ordered := by simp [lateEvening]
  writesApart w hw := by
    have hperiod : lateEvening.period .alertBand = 60000 := rfl
    simp only [lateEvening, List.mem_cons, List.not_mem_nil, or_false] at hw
    rcases hw with rfl | rfl
    all_goals
      rintro ⟨k, -, hk⟩
      rw [hperiod] at hk
      dsimp only at hk
      omega
  shutdownApart job := by
    rintro ⟨k, -, hk⟩
    have hshutdown : lateEvening.shutdown = 400000 := rfl
    cases job with
    | alertBand =>
        rw [hshutdown, show lateEvening.period .alertBand = 60000 from rfl] at hk
        omega
    | sleepReminder =>
        rw [hshutdown, show lateEvening.period .sleepReminder = 90000 from rfl] at hk
        omega
  lasting job e h := nomatch h

theorem play_starts_jobs_when_due_lateEvening :
    Punctual lateEvening (play lateEvening firstMinutes (atStart lateEvening)) ∧
      (play lateEvening firstMinutes (atStart lateEvening)).log = [(.sleepReminder, 180000)] :=
  ⟨play_starts_jobs_when_due fair_lateEvening firstMinutes, by decide +kernel⟩

end Timers

end Presence
