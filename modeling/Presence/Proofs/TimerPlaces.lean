import Presence.Proofs.TimerLoops

/-!
# Where the loops of the timers stand

At every moment each loop stands in a place that tells which ticks it has judged
(`Course.Stands`), and the switches show the texts that were written so far. Main statements:
`Timers.Steady.move`, every move keeps this, one lemma for each kind of move, and
`Timers.Steady.play`, so does every run.
-/

set_option autoImplicit false

namespace Presence

namespace Course

variable {c : Course} {job : ScanJob} {time a b t d : Nat} {told : Bool} {times : List Nat}

/-! ## Ticks -/

theorem Fair.period_pos (hc : c.Fair) (job : ScanJob) : 0 < c.period job := by
  have hticks := hc.ticks job
  simp only [canTick, Bool.and_eq_true, decide_eq_true_eq] at hticks
  exact Nat.mul_pos (by decide) hticks.1

theorem isTick_period (job : ScanJob) : c.IsTick job (c.period job) :=
  ⟨1, Nat.le_refl 1, (Nat.one_mul _).symm⟩

theorem IsTick.add_period (h : c.IsTick job t) : c.IsTick job (t + c.period job) := by
  obtain ⟨k, hk, rfl⟩ := h
  exact ⟨k + 1, Nat.le_add_left 1 k, (Nat.succ_mul _ _).symm⟩

theorem IsTick.period_le (h : c.IsTick job t) : c.period job ≤ t := by
  obtain ⟨k, hk, rfl⟩ := h
  exact Nat.le_mul_of_pos_left _ hk

/-- No tick lies between a tick and the next one. -/
theorem IsTick.le_of_lt (h : c.IsTick job t) (hd : c.IsTick job d) (hlt : t < d + c.period job) :
    t ≤ d := by
  obtain ⟨k, -, rfl⟩ := h
  obtain ⟨j, -, rfl⟩ := hd
  rw [← Nat.succ_mul] at hlt
  exact Nat.mul_le_mul_right _ (Nat.le_of_lt_succ (Nat.lt_of_mul_lt_mul_right hlt))

/-- When a job is due depends on nothing that concerns the other one. -/
theorem Alike.due_iff {c' : Course} (h : c.Alike c' job) : c'.Due job t ↔ c.Due job t := by
  have hinstant : c'.instant? t = c.instant? t := by rw [instant?, instant?, h.start]
  have hperiod : c'.period job = c.period job := by rw [period, period, h.schedule]
  have hwindow : (job = .sleepReminder →
      c'.settings.sleepStartHour = c.settings.sleepStartHour ∧
        c'.settings.sleepEndHour = c.settings.sleepEndHour) := by
    rintro rfl
    have hschedule := h.schedule
    simp only [Settings.schedule, Schedule.window.injEq] at hschedule
    exact ⟨hschedule.1, hschedule.2.1⟩
  have hallowed (now : Instant) :
      (job = .sleepReminder → LiesInWindow (c'.settings.timezone.hourAt now)
        c'.settings.sleepStartHour c'.settings.sleepEndHour) ↔
      (job = .sleepReminder → LiesInWindow (c.settings.timezone.hourAt now)
        c.settings.sleepStartHour c.settings.sleepEndHour) := by
    refine forall_congr' fun hjob => ?_
    rw [h.zone, (hwindow hjob).1, (hwindow hjob).2]
  constructor
  · rintro ⟨⟨k, hk, htick⟩, hbefore, ⟨now, hnow, hin⟩, hread, hon⟩
    exact ⟨⟨k, hk, hperiod ▸ htick⟩, h.shutdown ▸ hbefore,
      ⟨now, hinstant ▸ hnow, (hallowed now).1 hin⟩, h.refused t ▸ hread, h.text t ▸ hon⟩
  · rintro ⟨⟨k, hk, htick⟩, hbefore, ⟨now, hnow, hin⟩, hread, hon⟩
    exact ⟨⟨k, hk, hperiod.symm ▸ htick⟩, h.shutdown.symm ▸ hbefore,
      ⟨now, hinstant.symm ▸ hnow, (hallowed now).2 hin⟩, (h.refused t).symm ▸ hread,
      (h.text t).symm ▸ hon⟩

/-! ## What a loop has done so far -/

/-- Of the times at which a job is due, exactly those before a bound are listed, in order. -/
structure Settled (c : Course) (job : ScanJob) (bound : Nat) (times : List Nat) : Prop where
  increasing : times.Pairwise (· < ·)
  mem_iff : ∀ t, t ∈ times ↔ c.Due job t ∧ t < bound

theorem Settled.of_iff (h : c.Settled job a times) (hab : ∀ t, c.Due job t → (t < a ↔ t < b)) :
    c.Settled job b times where
  increasing := h.increasing
  mem_iff t := (h.mem_iff t).trans (and_congr_right (hab t))

/-- A tick at which the job is started is listed. -/
theorem Settled.concat (h : c.Settled job time times) (hpos : 0 < c.period job)
    (hdue : c.Due job time) : c.Settled job (time + c.period job) (times ++ [time]) where
  increasing := by
    refine List.pairwise_append.2 ⟨h.increasing, List.pairwise_singleton _ _, fun t ht u hu => ?_⟩
    obtain rfl := List.mem_singleton.1 hu
    exact ((h.mem_iff t).1 ht).2
  mem_iff t := by
    rw [List.mem_append, List.mem_singleton, h.mem_iff]
    constructor
    · rintro (⟨ht, hlt⟩ | rfl)
      · exact ⟨ht, by omega⟩
      · exact ⟨hdue, Nat.lt_add_of_pos_right hpos⟩
    · rintro ⟨ht, hlt⟩
      rcases Nat.lt_or_eq_of_le (ht.tick.le_of_lt hdue.tick hlt) with hbefore | rfl
      · exact .inl ⟨ht, hbefore⟩
      · exact .inr rfl

/-- A tick at which the job is not due is left out. -/
theorem Settled.skip (h : c.Settled job time times) (htick : c.IsTick job time)
    (hnot : ¬ c.Due job time) : c.Settled job (time + c.period job) times := by
  refine h.of_iff fun t ht => ⟨fun hlt => by omega, fun hlt => ?_⟩
  rcases Nat.lt_or_eq_of_le (ht.tick.le_of_lt htick hlt) with hbefore | rfl
  · exact hbefore
  · exact absurd ht hnot

/-- Where the loop of a job can stand at a time, with the times at which the job was started. -/
inductive Stands (c : Course) (job : ScanJob) (time : Nat) (told : Bool) (times : List Nat) :
    Timer → Prop
  | starting {d : Nat} (hzero : time = 0) (hs : c.Settled job 0 times) :
      Stands c job time told times ⟨.starting, d⟩
  | checking {d : Nat} (htick : c.IsTick job d) (hlt : time < d) (hs : c.Settled job d times) :
      Stands c job time told times ⟨.checking, d⟩
  | waiting {d : Nat} (htick : c.IsTick job d) (hle : time ≤ d) (hs : c.Settled job d times) :
      Stands c job time told times ⟨.waiting, d⟩
  | judging {rest : Operation Service.Tick} (htick : c.IsTick job time) (htold : told = false)
      (hs : c.Settled job time times) (hj : c.Judges job time rest) :
      Stands c job time told times ⟨.judging rest, time + c.period job⟩
  | stopped {d : Nat} (htold : told = true) (hs : c.Settled job c.shutdown times) :
      Stands c job time told times ⟨.stopped, d⟩

end Course

namespace Timers

variable {c : Course} {P : Timers} {job : ScanJob}

/-- What every moment keeps. -/
structure Steady (c : Course) (P : Timers) : Prop where
  clock : c.instant? P.time = some P.memory.clock.now
  /-- The switches hold what has been written so far. -/
  written : ∃ before, c.writes = before ++ P.writes ∧ (∀ w ∈ before, w.time ≤ P.time) ∧
    ∀ job, P.memory.store.strings.get? (c.key job) =
      (c.textAfter before job).map fun t => ⟨t, none⟩
  toWrite : ∀ w ∈ P.writes, P.time ≤ w.time
  told : P.told = true → c.shutdown ≤ P.time
  untold : P.told = false → P.time ≤ c.shutdown
  late : c.shutdown < P.time → ∀ job, (P.timers job).phase = .stopped
  begun : P.runs.map (·.job) = P.log.map (·.1)
  reading : ∀ r ∈ P.runs, Service.Reads r.rest
  logged : ∀ x ∈ P.log, x.2 ≤ P.time
  stands : ∀ job, c.Stands job P.time P.told (P.timesOf job) (P.timers job)

/-- What a loop that goes on leaves as it is. -/
structure Beside (P P' : Timers) (job : ScanJob) : Prop where
  time : P'.time = P.time
  memory : P'.memory = P.memory
  told : P'.told = P.told
  writes : P'.writes = P.writes
  timers : ∀ j, j ≠ job → P'.timers j = P.timers j
  timesOf : ∀ j, j ≠ job → P'.timesOf j = P.timesOf j

theorem beside_withTimer (P : Timers) (job : ScanJob) (T : Timer) :
    Beside P (P.withTimer job T) job :=
  ⟨rfl, rfl, rfl, rfl, fun _ hj => if_neg hj, fun _ _ => rfl⟩

theorem timers_withTimer (P : Timers) (job : ScanJob) (T : Timer) :
    (P.withTimer job T).timers job = T := if_pos rfl

theorem timesOf_start (c : Course) (P : Timers) (job j : ScanJob) :
    (P.start c job).timesOf j = if j = job then P.timesOf j ++ [P.time] else P.timesOf j := by
  unfold timesOf start
  rw [List.filter_append, List.map_append]
  by_cases hj : j = job
  · simp [hj]
  · simp [hj, Ne.symm hj]

theorem beside_start (c : Course) (P : Timers) (job : ScanJob) (T : Timer) :
    Beside P ((P.start c job).withTimer job T) job :=
  ⟨rfl, rfl, rfl, rfl, fun _ hj => if_neg hj,
    fun j hj => (timesOf_start c P job j).trans (if_neg hj)⟩

/-- The moment after a loop went on keeps what the moment before has kept. -/
theorem Steady.beside (h : Steady c P) {P' : Timers} (hb : Beside P P' job)
    (hlate : c.shutdown < P.time → (P'.timers job).phase = .stopped)
    (hbegun : P'.runs.map (·.job) = P'.log.map (·.1))
    (hreading : ∀ r ∈ P'.runs, Service.Reads r.rest) (hlogged : ∀ x ∈ P'.log, x.2 ≤ P.time)
    (hstands : c.Stands job P.time P.told (P'.timesOf job) (P'.timers job)) : Steady c P' where
  clock := by
    rw [hb.time, hb.memory]
    exact h.clock
  written := by
    rw [hb.writes, hb.time, hb.memory]
    exact h.written
  toWrite := by
    rw [hb.writes, hb.time]
    exact h.toWrite
  told := by
    rw [hb.told, hb.time]
    exact h.told
  untold := by
    rw [hb.told, hb.time]
    exact h.untold
  late hl j := by
    rw [hb.time] at hl
    by_cases hj : j = job
    · rw [hj]
      exact hlate hl
    · rw [hb.timers j hj]
      exact h.late hl j
  begun := hbegun
  reading := hreading
  logged := by
    rw [hb.time]
    exact hlogged
  stands j := by
    rw [hb.time, hb.told]
    by_cases hj : j = job
    · rw [hj]
      exact hstands
    · rw [hb.timers j hj, hb.timesOf j hj]
      exact h.stands j

/-- At a tick of a job the surroundings show the text of its switch at this time. -/
theorem Steady.shows (h : Steady c P) (hc : c.Fair) (htick : c.IsTick job P.time) :
    c.Shows job P.time P.memory where
  clock := h.clock
  switch := by
    obtain ⟨before, hwrites, hbefore, hswitch⟩ := h.written
    rw [hswitch job]
    congr 1
    -- what is still to be written is later, or it is written to another switch
    have hmore : ∀ w ∈ P.writes.filter (fun w => w.time ≤ P.time), w.job ≠ job := by
      intro w hw hjob
      obtain ⟨hmem, hle⟩ := List.mem_filter.1 hw
      have htime : w.time = P.time :=
        Nat.le_antisymm (of_decide_eq_true hle) (h.toWrite w hmem)
      refine hc.writesApart w (hwrites ▸ List.mem_append_right _ hmem) ?_
      rw [hjob, htime]
      exact htick
    have hall : before.filter (fun w => w.time ≤ P.time) = before :=
      List.filter_eq_self.2 fun w hw => decide_eq_true (hbefore w hw)
    have hnone : (P.writes.filter fun w => w.time ≤ P.time).reverse.find? (fun w => w.job = job) =
        none :=
      List.find?_eq_none.2 fun w hw => by simpa using hmore w (List.mem_reverse.1 hw)
    unfold Course.textAt Course.textAfter
    rw [hwrites, List.filter_append, hall, List.reverse_append, List.find?_append, hnone]
    rfl

/-- A tick that is reached by a loop that has not stopped is before the shutdown. -/
theorem Steady.before_shutdown (h : Steady c P) (hc : c.Fair) (htick : c.IsTick job P.time)
    (hphase : (P.timers job).phase ≠ .stopped) : P.told = false ∧ P.time < c.shutdown := by
  have hne : P.time ≠ c.shutdown := fun he => hc.shutdownApart job (he ▸ htick)
  have hle : P.time ≤ c.shutdown := Nat.le_of_not_lt fun hlt => hphase (h.late hlt job)
  refine ⟨?_, Nat.lt_of_le_of_ne hle hne⟩
  cases htold : P.told with
  | false => rfl
  | true => exact absurd (Nat.le_antisymm hle (h.told htold)) hne

theorem Steady.withTimer (h : Steady c P) (hphase : (P.timers job).phase ≠ .stopped) {T : Timer}
    (hT : c.Stands job P.time P.told (P.timesOf job) T) : Steady c (P.withTimer job T) :=
  h.beside (beside_withTimer P job T) (fun hl => absurd (h.late hl job) hphase) h.begun h.reading
    h.logged ((timers_withTimer P job T).symm ▸ hT)

/-- A loop that has judged a tick at which its job is due starts a run. -/
theorem Steady.start (h : Steady c P) (hc : c.Fair) (htick : c.IsTick job P.time)
    (hshut : P.time < c.shutdown) (hs : c.Settled job P.time (P.timesOf job))
    (hdue : c.Due job P.time) :
    Steady c ((P.start c job).withTimer job ⟨.checking, P.time + c.period job⟩) := by
  have hpos := hc.period_pos job
  refine h.beside (beside_start c P job _) (fun hl => absurd hl (Nat.lt_asymm hshut)) ?_ ?_ ?_ ?_
  · show (P.runs ++ [_]).map _ = (P.log ++ [_]).map _
    rw [List.map_append, List.map_append, h.begun]
    rfl
  · exact List.forall_mem_append.2
      ⟨h.reading, List.forall_mem_singleton.2 (c.settings.service.reads_scan job)⟩
  · exact List.forall_mem_append.2 ⟨h.logged, List.forall_mem_singleton.2 (Nat.le_refl _)⟩
  · have htimes : ((P.start c job).withTimer job ⟨.checking, P.time + c.period job⟩).timesOf job =
        P.timesOf job ++ [P.time] := (timesOf_start c P job job).trans (if_pos rfl)
    rw [htimes, timers_withTimer]
    exact .checking htick.add_period (Nat.lt_add_of_pos_right hpos) (hs.concat hpos hdue)

/-- A loop that starts waits for its first tick. -/
theorem Steady.goOn_starting (h : Steady c P) (hc : c.Fair) {d : Nat}
    (hT : P.timers job = ⟨.starting, d⟩) (hzero : P.time = 0)
    (hs : c.Settled job 0 (P.timesOf job)) (signalFirst : Bool) :
    Steady c (P.goOn c job signalFirst) := by
  unfold Timers.goOn
  rw [hT]
  refine h.withTimer (by simp [hT]) ?_
  rw [hzero, Nat.zero_add]
  refine .checking (c.isTick_period job) (hc.period_pos job) (hs.of_iff fun t ht => ?_)
  have hle := ht.tick.period_le
  omega

/-- A loop that has looked whether everybody was told to stop waits for its tick or stops. -/
theorem Steady.goOn_checking (h : Steady c P) {d : Nat} (hT : P.timers job = ⟨.checking, d⟩)
    (htick : c.IsTick job d) (hlt : P.time < d) (hs : c.Settled job d (P.timesOf job))
    (signalFirst : Bool) : Steady c (P.goOn c job signalFirst) := by
  unfold Timers.goOn
  rw [hT]
  refine h.withTimer (by simp [hT]) ?_
  dsimp only
  cases htold : P.told with
  | false => exact .waiting htick (Nat.le_of_lt hlt) hs
  | true =>
      -- what is due is before the shutdown, and the next tick is after it
      have hshut := h.told htold
      refine .stopped rfl (hs.of_iff fun t ht => ?_)
      have hlt' := ht.before
      omega

/-- A loop that waits for its tick hears that it is to stop, judges the tick when it has come, or
goes on waiting. -/
theorem Steady.goOn_waiting (h : Steady c P) (hc : c.Fair) {d : Nat}
    (hT : P.timers job = ⟨.waiting, d⟩) (htick : c.IsTick job d) (hle : P.time ≤ d)
    (hs : c.Settled job d (P.timesOf job)) (signalFirst : Bool) :
    Steady c (P.goOn c job signalFirst) := by
  have hphase : (P.timers job).phase ≠ .stopped := by simp [hT]
  unfold Timers.goOn
  rw [hT]
  dsimp only
  split
  · rename_i hsignal
    rw [Bool.and_eq_true] at hsignal
    refine h.withTimer hphase (.checking htick (Nat.lt_of_le_of_ne hle ?_) hs)
    -- the timer does not go off at the shutdown
    rintro rfl
    have huntold := (h.before_shutdown hc htick hphase).1
    rw [hsignal.1] at huntold
    cases huntold
  · split
    · rename_i hgone
      obtain rfl : P.time = d := Nat.le_antisymm hle hgone
      obtain ⟨huntold, hlt⟩ := h.before_shutdown hc htick hphase
      have hfollowing : Timer.following P.time (c.period job) P.time =
          P.time + c.period job := if_neg (by omega)
      refine h.withTimer hphase ?_
      rw [hfollowing]
      exact .judging htick huntold hs (Course.judges_tick htick hlt)
    · exact h

/-- A loop that judges a tick makes the next call for it; when it knows, it starts its job or leaves
the tick out. -/
theorem Steady.goOn_judging (h : Steady c P) (hc : c.Fair) {rest : Operation Service.Tick}
    (hT : P.timers job = ⟨.judging rest, P.time + c.period job⟩) (htick : c.IsTick job P.time)
    (huntold : P.told = false) (hs : c.Settled job P.time (P.timesOf job))
    (hj : c.Judges job P.time rest) (signalFirst : Bool) :
    Steady c (P.goOn c job signalFirst) := by
  have hphase : (P.timers job).phase ≠ .stopped := by simp [hT]
  have hshows := h.shows hc htick
  unfold Timers.goOn
  rw [hT]
  cases rest with
  | call call next =>
      have hmemory := (Course.answering_judging hj.only.1 hshows hshows).2
      have hnext := h.withTimer hphase (.judging htick huntold hs (hj.next hshows))
      dsimp only
      rw [hmemory]
      exact hnext
  | done o =>
      have hdue := hj.due P.memory hshows
      have hshut := (h.before_shutdown hc htick hphase).2
      have hskip (hno : o ≠ .ok .due) : Steady c
          (P.withTimer job ⟨.checking, P.time + c.period job⟩) :=
        h.withTimer hphase (.checking htick.add_period
          (Nat.lt_add_of_pos_right (hc.period_pos job))
          (hs.skip htick fun hd => hno (hdue.2 hd)))
      cases o with
      | ok verdict =>
          cases verdict with
          | due => exact h.start hc htick hshut hs (hdue.1 rfl)
          | disabled => exact hskip (fun he => nomatch he)
          | outsideWindow => exact hskip (fun he => nomatch he)
      | failed e => exact hskip (fun he => nomatch he)
      | crashed x => exact absurd rfl (hj.sound P.memory hshows x)

/-- A loop that has stopped does nothing. -/
theorem goOn_stopped {d : Nat} (hT : P.timers job = ⟨.stopped, d⟩) (signalFirst : Bool) :
    P.goOn c job signalFirst = P := by
  unfold Timers.goOn
  rw [hT]

/-- A loop that goes on keeps its place. -/
theorem Steady.goOn (h : Steady c P) (hc : c.Fair) (job : ScanJob) (signalFirst : Bool) :
    Steady c (P.goOn c job signalFirst) := by
  have hstands := h.stands job
  generalize hT : P.timers job = T at hstands
  cases hstands with
  | starting hzero hs => exact h.goOn_starting hc hT hzero hs signalFirst
  | checking htick hlt hs => exact h.goOn_checking hT htick hlt hs signalFirst
  | waiting htick hle hs => exact h.goOn_waiting hc hT htick hle hs signalFirst
  | judging htick huntold hs hj => exact h.goOn_judging hc hT htick huntold hs hj signalFirst
  | stopped htold hs =>
      rw [goOn_stopped hT]
      exact h

/-- Surroundings with the same clock and the same texts do not disturb the loops. -/
theorem Steady.withMemory (h : Steady c P) {m : Memory} (hclock : m.clock = P.memory.clock)
    (hswitch : ∀ job, m.store.strings.get? (c.key job) =
      P.memory.store.strings.get? (c.key job)) : Steady c { P with memory := m } :=
  { h with
    clock := by
      rw [hclock]
      exact h.clock
    written := by
      obtain ⟨before, hwrites, hbefore, htext⟩ := h.written
      exact ⟨before, hwrites, hbefore, fun job => (hswitch job).trans (htext job)⟩ }

theorem agree_answer {call : Call} (h : call.isReading = true) (mishap : Option Mishap)
    (m : Memory) : m.Agree (call.answer mishap m).2 := by
  unfold Call.answer
  split
  · exact ⟨rfl, rfl, rfl, rfl, rfl⟩
  · exact Memory.agree_serve h m

/-- The next call of a run leaves clock and texts alone, whether or not something goes wrong. -/
theorem Steady.run (h : Steady c P) (i : Nat) (mishap : Option Mishap) :
    Steady c (P.move c (.run i mishap)) := by
  unfold Timers.move
  dsimp only
  split
  · rename_i j call next hr
    obtain ⟨hi, hget⟩ := List.getElem?_eq_some_iff.1 hr
    have hreads := h.reading _ (List.mem_of_getElem? hr)
    have hagree := agree_answer hreads.1 mishap P.memory
    have hmemory := h.withMemory hagree.clock fun job => by rw [hagree.store]
    refine { hmemory with begun := ?_, reading := fun r hmem => ?_ }
    · show (P.runs.set i _).map _ = _
      have hlen : i < (P.runs.map (·.job)).length := by rwa [List.length_map]
      have hjob : (P.runs.map (·.job)).get ⟨i, hlen⟩ = j := by
        rw [List.get_eq_getElem, List.getElem_map, hget]
      rw [List.map_set, ← h.begun]
      exact hjob ▸ List.set_getElem_self hlen
    · rcases List.mem_or_eq_of_mem_set hmem with hmem | rfl
      · exact h.reading r hmem
      · exact hreads.2 _
  · exact h

theorem key_inj {j : ScanJob} : c.key j = c.key job ↔ j = job := by
  unfold Course.key Keys.jobSwitch
  rw [Keys.key_inj, String.append_right_inj]
  cases j <;> cases job <;> decide

theorem textAfter_concat (ws : List SwitchWrite) (w : SwitchWrite) (job : ScanJob) :
    c.textAfter (ws ++ [w]) job = if w.job = job then some w.text else c.textAfter ws job := by
  unfold Course.textAfter
  rw [List.reverse_append, List.reverse_singleton, List.singleton_append, List.find?_cons]
  by_cases hw : w.job = job <;> simp [hw]

/-- A write makes its text the one that the switch shows. -/
theorem Steady.write (h : Steady c P) (hc : c.Fair) : Steady c (P.move c .write) := by
  unfold Timers.move
  dsimp only
  split
  · rename_i w rest hw
    split
    · rename_i hdue
      obtain ⟨before, hwrites, hbefore, htext⟩ := h.written
      rw [hw] at hwrites
      have hordered : (before ++ w :: rest).Pairwise fun v w => v.time ≤ w.time :=
        hwrites ▸ hc.ordered
      have hnext := (List.pairwise_cons.1 (List.pairwise_append.1 hordered).2.1).1
      refine { h with written := ⟨before ++ [w], ?_, ?_, fun job => ?_⟩, toWrite := fun v hv => ?_ }
      · rw [hwrites, List.append_assoc, List.singleton_append]
      · exact List.forall_mem_append.2 ⟨hbefore, List.forall_mem_singleton.2 hdue⟩
      · show (P.memory.store.strings.set (c.key w.job) ⟨w.text, none⟩).get? (c.key job) = _
        rw [textAfter_concat]
        by_cases hj : w.job = job
        · rw [hj, if_pos rfl, Table.get?_set_self]
          rfl
        · rw [if_neg hj, Table.get?_set_of_ne _ _ fun he => hj (key_inj.1 he).symm, htext]
      · exact Nat.le_trans (h.toWrite w (hw ▸ List.mem_cons_self)) (hnext v hv)
    · exact h
  · exact h

/-- When the loops are told to stop no tick is judged. -/
theorem Steady.tell (h : Steady c P) (hc : c.Fair) : Steady c (P.move c .tell) := by
  unfold Timers.move
  dsimp only
  split
  · rename_i hshut
    refine { h with told := fun _ => hshut, untold := fun htold => (nomatch htold), stands := ?_ }
    intro job
    show c.Stands job P.time true (P.timesOf job) (P.timers job)
    have hstands := h.stands job
    have hbefore (htick : c.IsTick job P.time) := h.before_shutdown hc htick
    generalize P.timers job = T at hstands hbefore
    cases hstands with
    | starting hzero hs => exact .starting hzero hs
    | checking htick hlt hs => exact .checking htick hlt hs
    | waiting htick hle hs => exact .waiting htick hle hs
    | judging htick _ _ _ =>
        exact absurd (hbefore htick (fun hp => nomatch hp)).2 (Nat.not_lt.2 hshut)
    | stopped _ hs => exact .stopped rfl hs
  · exact h

/-- A loop that has nothing to do has stopped, or it waits for its timer. -/
theorem stopped_or_waiting (h : P.isReady job = false) : (P.timers job).phase = .stopped ∨
    P.told = false ∧ ∃ d, P.timers job = ⟨.waiting, d⟩ ∧ P.time < d := by
  unfold isReady at h
  generalize P.timers job = T at h
  obtain ⟨phase, d⟩ := T
  cases phase with
  | waiting =>
      rw [Bool.or_eq_false_iff] at h
      exact .inr ⟨h.1, d, rfl, Nat.lt_of_not_le (of_decide_eq_false h.2)⟩
  | stopped => exact .inl rfl
  | starting => cases h
  | checking => cases h
  | judging rest => cases h

/-- While time passes every loop waits, at most until its timer goes off. -/
theorem Steady.pass (h : Steady c P) (time : Nat) : Steady c (P.move c (.pass time)) := by
  unfold Timers.move
  dsimp only
  split
  · rename_i now hnow
    split
    · rename_i hmay
      simp only [mayPass, Bool.and_eq_true, decide_eq_true_eq, List.all_eq_true, Bool.or_eq_true,
        Bool.not_eq_true'] at hmay
      obtain ⟨⟨⟨hle, hshut⟩, hwrites⟩, hloops⟩ := hmay
      have hloop (job : ScanJob) : (P.timers job).phase = .stopped ∨
          P.told = false ∧ ∃ d, P.timers job = ⟨.waiting, d⟩ ∧ time ≤ d := by
        obtain ⟨hready, hdeadline⟩ := hloops job (by cases job <;> decide)
        refine (stopped_or_waiting hready).imp_right fun ⟨htold, d, hT, _⟩ => ⟨htold, d, hT, ?_⟩
        rw [hT] at hdeadline
        exact of_decide_eq_true hdeadline
      exact
        { h with
          clock := hnow
          written := by
            obtain ⟨before, heq, hbefore, htext⟩ := h.written
            exact ⟨before, heq, fun w hw => Nat.le_trans (hbefore w hw) hle, htext⟩
          toWrite := hwrites
          told := fun htold => Nat.le_trans (h.told htold) hle
          untold := fun htold => hshut.resolve_left fun ht => (by rw [htold] at ht; cases ht)
          late := fun hlt job => by
            rcases hloop job with hstopped | ⟨htold, -⟩
            · exact hstopped
            · rcases hshut with ht | ht
              · rw [htold] at ht
                cases ht
              · exact absurd hlt (Nat.not_lt.2 ht)
          logged := fun x hx => Nat.le_trans (h.logged x hx) hle
          stands := fun job => by
            have hstands := h.stands job
            show c.Stands job time P.told (P.timesOf job) (P.timers job)
            rcases hloop job with hstopped | ⟨-, d, hwaiting, hd⟩
            · generalize P.timers job = T at hstands hstopped
              cases hstands with
              | stopped htold hs => exact .stopped htold hs
              | _ => cases hstopped
            · rw [hwaiting] at hstands ⊢
              cases hstands with
              | waiting htick _ hs => exact .waiting htick hd hs }
    · exact h
  · exact h

theorem Steady.move (h : Steady c P) (hc : c.Fair) (a : TimerMove) : Steady c (P.move c a) := by
  cases a with
  | timer job signalFirst => exact h.goOn hc job signalFirst
  | run i mishap => exact h.run i mishap
  | write => exact h.write hc
  | tell => exact h.tell hc
  | elsewhere m =>
      unfold Timers.move
      dsimp only
      split
      · rename_i hsame
        simp only [leavesSwitches, Bool.and_eq_true, decide_eq_true_eq, List.all_eq_true] at hsame
        exact h.withMemory hsame.1 fun job => hsame.2 job (by cases job <;> decide)
      · exact h
  | pass time => exact h.pass time

/-- The loops keep their places in every run. -/
theorem Steady.play (h : Steady c P) (hc : c.Fair) (as : List TimerMove) :
    Steady c (play c as P) := by
  induction as generalizing P with
  | nil => exact h
  | cons a as ih => exact ih (h.move hc a)

theorem steady_atStart (hc : c.Fair) : Steady c (atStart c) where
  clock := by
    show Instant.ofMillis? (c.memory.clock.now.millis + 0) = _
    rw [Int.add_zero]
    exact Instant.ofMillis?_millis _
  written := by
    refine ⟨[], rfl, fun w hw => absurd hw List.not_mem_nil, fun job => ?_⟩
    show c.memory.store.strings.get? (c.key job) =
      (c.memory.store.getString c.memory.clock.now (c.key job)).map _
    unfold Store.getString
    cases htext : c.memory.store.strings.get? (c.key job) with
    | none => rfl
    | some e =>
        obtain ⟨value, expires⟩ := e
        obtain rfl : expires = none := hc.lasting job _ htext
        rfl
  toWrite _ _ := Nat.zero_le _
  told htold := nomatch htold
  untold _ := Nat.zero_le _
  late hlt := absurd hlt (Nat.not_lt_zero _)
  begun := rfl
  reading _ hr := absurd hr List.not_mem_nil
  logged _ hx := absurd hx List.not_mem_nil
  stands job := .starting rfl ⟨.nil, fun t =>
    iff_of_false List.not_mem_nil fun ht => absurd ht.2 (Nat.not_lt_zero t)⟩

end Timers

end Presence
