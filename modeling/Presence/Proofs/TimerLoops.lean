import Presence.JobSwitch
import Presence.Proofs.Evaluation
import Presence.Proofs.ScanOverlap
import Presence.Simulation

/-!
# The loops of the timers

Each job has a loop with an interval timer. When the timer goes off the loop judges the tick, and
if the job is due it starts a run and does not wait for its end. The loops, the runs, those who
write texts to the switches and everybody else take turns in any order; time passes only while no
loop has anything to do. Main statements: `Course.due_iff`, a tick that is judged comes to a start
exactly if the job is due, and `Simulation.ring_eq`, so does a tick of the simulated service.
-/

set_option autoImplicit false

namespace Presence

open Service (Tick)

/-! ## What is given -/

/-- A text that is written to the switch of a job at a time. -/
structure SwitchWrite where
  time : Nat
  job : ScanJob
  text : String

/-- What the loops meet with, in whatever order they take turns. Times are milliseconds since the
start. -/
structure Course where
  settings : Settings
  /-- The surroundings at the start. Their clock shows the instant of the start. -/
  memory : Memory
  writes : List SwitchWrite
  /-- The failures of the readings of switches, by the time of the reading. -/
  refused : ScanJob → Nat → Option Failure
  /-- The time at which the loops are told to stop. -/
  shutdown : Nat

namespace Course

variable (c : Course)

/-- The milliseconds between two ticks of a job. -/
def period (job : ScanJob) : Nat := 1000 * (c.settings.schedule job).every

/-- The timer of a job goes off at a time. -/
def IsTick (job : ScanJob) (time : Nat) : Prop := ∃ k, 1 ≤ k ∧ time = k * c.period job

/-- The key of the switch of a job. -/
def key (job : ScanJob) : String := c.settings.service.keys.jobSwitch job.name

/-- The instant that a clock shows at a time, if the calendar holds it. -/
def instant? (time : Nat) : Option Instant :=
  Instant.ofMillis? (c.memory.clock.now.millis + time)

/-- The text of the switch of a job after some writes. -/
def textAfter (ws : List SwitchWrite) (job : ScanJob) : Option String :=
  match ws.reverse.find? fun w => w.job = job with
  | some w => some w.text
  | none => c.memory.store.getString c.memory.clock.now (c.key job)

/-- The text of the switch of a job at a time, which is the latest that was written. -/
def textAt (job : ScanJob) (time : Nat) : Option String :=
  c.textAfter (c.writes.filter fun w => w.time ≤ time) job

/-- Judges a tick of a job. -/
def tick (job : ScanJob) : Operation Tick :=
  c.settings.service.tick job (c.settings.schedule job) c.settings.timezone

/-- Answers the calls of the loop of a job at a time. -/
def answering (job : ScanJob) (time : Nat) (call : Call) (m : Memory) :
    Outcome call.Reply × Memory :=
  call.answer ((c.refused job time).map .failure) m

end Course

/-- An hour lies in a window that wraps past midnight if its last hour is before its first one, and
is the whole day if they are equal. -/
def LiesInWindow (hour first last : Nat) : Prop :=
  first = last ∨ (first < last ∧ first ≤ hour ∧ hour < last) ∨
    (last < first ∧ (first ≤ hour ∨ hour < last))

/-- A text says off: without the blanks at its ends it is a zero, or it is `false` or `off` with
letters of either case. -/
def SaysOff (text : String) : Prop :=
  Text.trim text = "0" ∨ ∃ word ∈ ["false", "off"],
    List.Forall₂ (fun c l => c = l ∨ c = l.toUpper) (Text.trim text).toList word.toList

/-- A job is to be started at a time. -/
structure Course.Due (c : Course) (job : ScanJob) (time : Nat) : Prop where
  tick : c.IsTick job time
  before : time < c.shutdown
  /-- The reminder scan has to lie in its window by the clock of the zone. -/
  allowed : ∃ now, c.instant? time = some now ∧ (job = .sleepReminder →
    LiesInWindow (c.settings.timezone.hourAt now) c.settings.sleepStartHour c.settings.sleepEndHour)
  /-- The switch can be read. -/
  readable : c.refused job time = none
  /-- A switch that was never set is on. -/
  on : ∀ text, c.textAt job time = some text → ¬ SaysOff text

/-- Two courses are alike for a job: the start, the shutdown, its schedule, the texts of its switch
and the failures to read it are the same. Whatever concerns the other job may differ. -/
structure Course.Alike (c c' : Course) (job : ScanJob) : Prop where
  start : c'.memory.clock.now = c.memory.clock.now
  zone : c'.settings.timezone = c.settings.timezone
  schedule : c'.settings.schedule job = c.settings.schedule job
  shutdown : c'.shutdown = c.shutdown
  text : ∀ time, c'.textAt job time = c.textAt job time
  refused : ∀ time, c'.refused job time = c.refused job time

/-- The timers can go off, the writes come in the order of time, neither they nor the shutdown fall
on a tick of the timer at hand, and a text that stands in a switch at the start does not expire. -/
structure Course.Fair (c : Course) : Prop where
  ticks : ∀ job, canTick (c.settings.schedule job).every = true
  ordered : c.writes.Pairwise fun v w => v.time ≤ w.time
  writesApart : ∀ w ∈ c.writes, ¬ c.IsTick w.job w.time
  shutdownApart : ∀ job, ¬ c.IsTick job c.shutdown
  lasting : ∀ job e, c.memory.store.strings.get? (c.key job) = some e → e.expires = none

/-! ## The loops at work -/

/-- Where the loop of a timer stands. -/
inductive TimerPhase where
  | starting
  /-- It is about to look whether it has been told to stop. -/
  | checking
  /-- It waits for its timer and for the signal to stop. -/
  | waiting
  /-- It judges a tick. -/
  | judging (rest : Operation Tick)
  | stopped

/-- The loop of a timer, with the time at which the timer goes off next. -/
structure Timer where
  phase : TimerPhase := .starting
  deadline : Nat := 0

/-- The deadline after one that is handled at a time. More than five milliseconds late, all
deadlines that have passed are skipped. -/
def Timer.following (deadline period time : Nat) : Nat :=
  if deadline + 5 < time then time + period - (time - deadline) % period else deadline + period

/-- The loops at work, the writes that are still to come, the runs that were started, and the jobs
that were started with their times. -/
structure Timers where
  time : Nat := 0
  memory : Memory
  timers : ScanJob → Timer := fun _ => {}
  told : Bool := false
  writes : List SwitchWrite
  runs : List ScanRun := []
  log : List (ScanJob × Nat) := []

/-- What can happen next. -/
inductive TimerMove where
  /-- A loop goes on. If its timer has gone off and it has been told to stop, it may look at either
  first. -/
  | timer (job : ScanJob) (signalFirst : Bool)
  /-- A run makes its next call, at which something may go wrong. -/
  | run (i : Nat) (mishap : Option Mishap)
  /-- The next text is written. -/
  | write
  /-- The loops are told to stop. -/
  | tell
  /-- Others leave these surroundings, with the switches and the clock as before. -/
  | elsewhere (m : Memory)
  /-- Time passes. -/
  | pass (time : Nat)

namespace Timers

variable (c : Course) (P : Timers)

/-- The loops at the start. -/
def atStart : Timers := { memory := c.memory, writes := c.writes }

/-- The times at which a job was started, in order. -/
def timesOf (job : ScanJob) : List Nat := (P.log.filter fun x => x.1 = job).map (·.2)

/-- Replaces the loop of a timer. -/
def withTimer (job : ScanJob) (T : Timer) : Timers :=
  { P with timers := fun j => if j = job then T else P.timers j }

/-- Starts a run of a job. -/
def start (job : ScanJob) : Timers :=
  { P with
    runs := P.runs ++ [⟨job, c.settings.service.scan job⟩]
    log := P.log ++ [(job, P.time)] }

/-- Lets the loop of a timer go on. -/
def goOn (job : ScanJob) (signalFirst : Bool) : Timers :=
  let T := P.timers job
  match T.phase with
  | .starting => P.withTimer job ⟨.checking, P.time + c.period job⟩
  | .checking => P.withTimer job { T with phase := if P.told then .stopped else .waiting }
  | .waiting =>
    if P.told && (signalFirst || P.time < T.deadline) then
      P.withTimer job { T with phase := .checking }
    else if T.deadline ≤ P.time then
      P.withTimer job
        ⟨.judging (c.tick job), Timer.following T.deadline (c.period job) P.time⟩
    else P
  | .judging (.call call next) =>
    let (r, m) := c.answering job P.time call P.memory
    { P.withTimer job { T with phase := .judging (next r) } with memory := m }
  | .judging (.done (.ok .due)) => (P.start c job).withTimer job { T with phase := .checking }
  -- a tick that cannot be judged is only reported
  | .judging (.done (.ok _)) => P.withTimer job { T with phase := .checking }
  | .judging (.done (.failed _)) => P.withTimer job { T with phase := .checking }
  | .judging (.done (.crashed _)) => P.withTimer job { T with phase := .stopped }
  | .stopped => P

/-- The loop of a timer has something to do. -/
def isReady (job : ScanJob) : Bool :=
  match (P.timers job).phase with
  | .waiting => P.told || (P.timers job).deadline ≤ P.time
  | .stopped => false
  | _ => true

/-- Time can pass up to a time: no loop has anything to do, and nothing comes before. -/
def mayPass (time : Nat) : Bool :=
  P.time ≤ time && (P.told || time ≤ c.shutdown) && P.writes.all (fun w => time ≤ w.time) &&
    Settings.jobs.all fun job => !P.isReady job && match (P.timers job).phase with
      | .stopped => true
      | _ => time ≤ (P.timers job).deadline

/-- Surroundings with the same clock and the same texts in the switches. -/
def leavesSwitches (m : Memory) : Bool :=
  m.clock = P.memory.clock && Settings.jobs.all fun job =>
    m.store.strings.get? (c.key job) = P.memory.store.strings.get? (c.key job)

/-- Lets one thing happen. What cannot happen changes nothing. -/
def move : TimerMove → Timers
  | .timer job signalFirst => P.goOn c job signalFirst
  | .run i mishap =>
    match P.runs[i]? with
    | some ⟨job, .call call next⟩ =>
      let (r, m) := call.answer mishap P.memory
      { P with memory := m, runs := P.runs.set i ⟨job, next r⟩ }
    | _ => P
  | .write =>
    match P.writes with
    | w :: rest =>
      if w.time ≤ P.time then
        let m := (P.memory.run (Operation.setString (c.key w.job) w.text none)).2
        { P with memory := m, writes := rest }
      else P
    | [] => P
  | .tell => if c.shutdown ≤ P.time then { P with told := true } else P
  | .elsewhere m => if P.leavesSwitches c m then { P with memory := m } else P
  | .pass time =>
    match c.instant? time with
    | some now =>
      if P.mayPass c time then { P with time, memory := P.memory.clockAt now } else P
    | none => P

/-- Lets things happen one after another. -/
def play : List TimerMove → Timers → Timers
  | [], P => P
  | a :: rest, P => play rest (P.move c a)

end Timers

/-! ## What a tick comes to -/

theorem Schedule.hourInWindow_iff {hour first last : Nat} :
    hourInWindow hour first last = true ↔ LiesInWindow hour first last := by
  unfold hourInWindow LiesInWindow
  split
  · simp [*]
  · split <;> simp only [Bool.and_eq_true, Bool.or_eq_true, decide_eq_true_eq] <;> omega

theorem toNat_toLower (c : Char) :
    c.toLower.toNat = if 65 ≤ c.toNat ∧ c.toNat ≤ 90 then c.toNat + 32 else c.toNat := by
  unfold Char.toLower
  simp only [Char.toNat, UInt32.le_iff_toNat_le, ge_iff_le]
  split
  · rename_i h
    have hupper : 65 ≤ c.val.toNat ∧ c.val.toNat ≤ 90 := h
    rw [if_pos hupper, UInt32.toNat_add]
    show (c.val.toNat + 32) % 4294967296 = _
    omega
  · rename_i h
    exact (if_neg h).symm

theorem toNat_toUpper {l : Char} (hl : 97 ≤ l.toNat ∧ l.toNat ≤ 122) :
    l.toUpper.toNat = l.toNat - 32 := by
  have hcase : l.toUpper = ⟨l.val + ('A'.val - 'a'.val), _⟩ := dif_pos hl
  rw [hcase, Char.toNat, UInt32.toNat_add]
  -- the difference of the cases is taken modulo the words
  show (l.toNat + 4294967264) % 4294967296 = _
  omega

theorem toLower_eq_iff {c l : Char} (hl : l.isLower = true) :
    c.toLower = l ↔ c = l ∨ c = l.toUpper := by
  have hlower : 97 ≤ l.toNat ∧ l.toNat ≤ 122 := by
    have hbounds := Bool.and_eq_true_iff.1 hl
    exact ⟨of_decide_eq_true hbounds.1, of_decide_eq_true hbounds.2⟩
  simp only [← Char.toNat_inj, toNat_toLower, toNat_toUpper hlower]
  split <;> omega

theorem map_toLower_eq_iff {word : List Char} (h : ∀ l ∈ word, l.isLower = true) :
    ∀ {cs : List Char}, cs.map Char.toLower = word ↔
      List.Forall₂ (fun c l => c = l ∨ c = l.toUpper) cs word := by
  induction word with
  | nil => simp
  | cons l word ih =>
      obtain ⟨hl, hword⟩ := List.forall_mem_cons.1 h
      intro cs
      cases cs with
      | nil => simp
      | cons c cs =>
          rw [List.map_cons, List.cons.injEq, List.forall₂_cons, toLower_eq_iff hl, ih hword]

/-- A switch is on unless its text says off. -/
theorem Service.isOn_iff {text : Option String} :
    isOn text = true ↔ ∀ t, text = some t → ¬ SaysOff t := by
  have hword (t word : String) (h : word.toList.all Char.isLower = true) :
      Text.lowerAscii t = word ↔
        List.Forall₂ (fun c l => c = l ∨ c = l.toUpper) t.toList word.toList := by
    rw [← map_toLower_eq_iff (List.all_eq_true.1 h), Text.lowerAscii, ← String.toList_inj,
      String.toList_ofList]
  cases text with
  | none => simp [isOn]
  | some t =>
      have hfalse := hword (Text.trim t) "false" rfl
      have hoff := hword (Text.trim t) "off" rfl
      simp only [isOn, SaysOff, Bool.not_eq_true', Bool.or_eq_false_iff, decide_eq_false_iff_not,
        hfalse, hoff, List.mem_cons, List.not_mem_nil, or_false, Option.some.injEq]
      constructor
      · rintro ⟨⟨hzero, hf⟩, ho⟩ _ rfl (h | ⟨word, rfl | rfl, h⟩)
        · exact hzero h
        · exact hf h
        · exact ho h
      · intro h
        have hno := h t rfl
        exact ⟨⟨fun hz => hno (.inl hz), fun hf => hno (.inr ⟨_, .inl rfl, hf⟩)⟩,
          fun ho => hno (.inr ⟨_, .inr rfl, ho⟩)⟩

namespace Course

variable {c : Course} {job : ScanJob} {time : Nat} {m m' : Memory}

/-- Surroundings show the instant of a time, and the text of the switch of a job. -/
structure Shows (c : Course) (job : ScanJob) (time : Nat) (m : Memory) : Prop where
  clock : c.instant? time = some m.clock.now
  switch : m.store.strings.get? (c.key job) = (c.textAt job time).map fun t => ⟨t, none⟩

theorem Shows.getString (h : c.Shows job time m) :
    m.store.getString m.clock.now (c.key job) = c.textAt job time := by
  unfold Store.getString
  rw [h.switch]
  cases c.textAt job time <;> rfl

/-- What a tick comes to. -/
theorem run_tick (h : c.Shows job time m) :
    (Program.run (c.answering job time) (c.tick job) m).1 =
      if (c.settings.schedule job).allows m.clock.now c.settings.timezone then
        match c.refused job time with
        | some e => .failed e
        | none => .ok (if Service.isOn (c.textAt job time) then .due else .disabled)
      else .ok .outsideWindow := by
  have hnow : Program.run (c.answering job time) Operation.now m = (.ok m.clock.now, m) := by
    unfold answering
    cases c.refused job time <;> rfl
  unfold tick Service.tick
  rw [Program.run_bind, hnow]
  dsimp only
  split
  · -- the schedule allows the hour, so the switch is read
    have hread : Program.run (c.answering job time)
        (Operation.getString (c.settings.service.keys.jobSwitch job.name)) m =
        (match c.refused job time with
          | some e => .failed e
          | none => .ok (c.textAt job time), m) := by
      unfold answering
      cases c.refused job time with
      | some e => rfl
      | none =>
          rw [← h.getString]
          rfl
    rw [Program.run_bind, Service.isActive, Program.run_bind]
    rw [hread]
    cases c.refused job time <;> rfl
  · rfl

/-- A tick that is judged before the shutdown comes to a start if the job is due. -/
theorem due_iff (htick : c.IsTick job time) (hbefore : time < c.shutdown)
    (h : c.Shows job time m) :
    (Program.run (c.answering job time) (c.tick job) m).1 = .ok .due ↔ c.Due job time := by
  have hallows : (c.settings.schedule job).allows m.clock.now c.settings.timezone = true ↔
      (job = .sleepReminder → LiesInWindow (c.settings.timezone.hourAt m.clock.now)
        c.settings.sleepStartHour c.settings.sleepEndHour) := by
    cases job with
    | alertBand => simp [Settings.schedule, Schedule.allows]
    | sleepReminder =>
        simp only [Settings.schedule, Schedule.allows, Schedule.hourInWindow_iff, forall_const]
  rw [run_tick h]
  constructor
  · intro hdue
    split at hdue
    · rename_i hyes
      cases hread : c.refused job time with
      | some e =>
          rw [hread] at hdue
          cases hdue
      | none =>
          rw [hread] at hdue
          dsimp only at hdue
          split at hdue
          · rename_i hon
            exact ⟨htick, hbefore, ⟨_, h.clock, hallows.1 hyes⟩, hread, Service.isOn_iff.1 hon⟩
          · cases hdue
    · cases hdue
  · rintro ⟨-, -, ⟨now, hnow, hwindow⟩, hread, hon⟩
    obtain rfl : now = m.clock.now := Option.some.inj (hnow.symm.trans h.clock)
    rw [if_pos (hallows.2 hwindow), hread]
    dsimp only
    rw [if_pos (Service.isOn_iff.2 hon)]

/-- A call of a loop that judges a tick of a job. -/
def IsJudging (c : Course) (job : ScanJob) (call : Call) : Prop :=
  call = .now ∨ call = .store (.getString (c.key job))

open Program in
theorem only_tick : (c.tick job).Only (c.IsJudging job) := by
  refine Only.bind (only_ask (.inl rfl)) fun now => ?_
  split
  · exact Only.bind (Only.bind (only_ask (.inr rfl)) fun _ => only_pure _) fun _ => only_pure _
  · exact only_pure _

/-- The calls of a loop that judges a tick change nothing, and what they come back with depends on
the clock and the switch only. -/
theorem answering_judging {call : Call} (hcall : c.IsJudging job call) (h : c.Shows job time m)
    (h' : c.Shows job time m') :
    (c.answering job time call m).1 = (c.answering job time call m').1 ∧
      (c.answering job time call m).2 = m := by
  have hclock : m.clock.now = m'.clock.now := Option.some.inj (h.clock.symm.trans h'.clock)
  unfold answering
  rcases hcall with rfl | rfl
  · cases c.refused job time <;> exact ⟨congrArg Outcome.ok hclock, rfl⟩
  · cases c.refused job time with
    | some e => exact ⟨rfl, rfl⟩
    | none =>
        refine ⟨congrArg Outcome.ok ?_, rfl⟩
        rw [h.getString, h'.getString]

/-- A program will judge a tick rightly. -/
structure Judges (c : Course) (job : ScanJob) (time : Nat) (rest : Operation Tick) : Prop where
  only : rest.Only (c.IsJudging job)
  due : ∀ m, c.Shows job time m →
    ((Program.run (c.answering job time) rest m).1 = .ok .due ↔ c.Due job time)
  sound : ∀ m, c.Shows job time m →
    ∀ x, (Program.run (c.answering job time) rest m).1 ≠ .crashed x

theorem judges_tick (htick : c.IsTick job time) (hbefore : time < c.shutdown) :
    c.Judges job time (c.tick job) where
  only := only_tick
  due _ hm := due_iff htick hbefore hm
  sound m hm x := by
    rw [run_tick hm]
    split
    · cases c.refused job time <;> exact fun h => nomatch h
    · exact fun h => nomatch h

/-- The call of a program that judges a tick leads on to one that does. -/
theorem Judges.next {call : Call} {next : Outcome call.Reply → Operation Tick}
    (h : c.Judges job time (.call call next)) (hm : c.Shows job time m) :
    c.Judges job time (next (c.answering job time call m).1) := by
  have hrun (m' : Memory) (hm' : c.Shows job time m') :
      Program.run (c.answering job time) (next (c.answering job time call m).1) m' =
        Program.run (c.answering job time) (.call call next) m' := by
    obtain ⟨hreply, hsame⟩ := answering_judging h.only.1 hm' hm
    rw [Program.run, hreply, hsame]
  refine ⟨h.only.2 _, fun m' hm' => ?_, fun m' hm' => ?_⟩
  · rw [hrun m' hm']
    exact h.due m' hm'
  · rw [hrun m' hm']
    exact h.sound m' hm'

end Course

/-! ## The simulated service -/

section Simulated

variable {c : Course} {job : ScanJob} {time : Nat} {s : Simulation}

/-- Where nothing fails a tick is judged in a world as it is by a loop. -/
theorem World.run_judging {w : World} (hfaults : w.faults = []) (h : c.Shows job time w.memory)
    (hread : c.refused job time = none) {rest : Operation Tick}
    (honly : rest.Only (c.IsJudging job)) :
    w.run rest = ((Program.run (c.answering job time) rest w.memory).1, w) := by
  have hrefusal (call : Call) : w.refusal call = (none, w) := by
    obtain ⟨settings, memory, faults⟩ := w
    obtain rfl : faults = [] := hfaults
    unfold World.refusal
    split <;> rfl
  induction rest with
  | done o => rfl
  | call call next ih =>
      have hsame := (Course.answering_judging honly.1 h h).2
      have hanswer : c.answering job time call w.memory = Memory.serve call w.memory := by
        unfold Course.answering Call.answer
        rw [hread]
        split <;> simp_all
      have hserve : World.serve call w = ((c.answering job time call w.memory).1, w) := by
        unfold World.serve
        rw [hrefusal]
        dsimp only
        rw [← hanswer, hsame]
      unfold World.run at ih ⊢
      rw [Program.run, hserve, Program.run, hsame]
      exact ih _ (honly.2 _)

namespace Simulation

/-- The timers of the simulated service go off at the ticks. -/
theorem mem_ringing (hc : c.Fair) (hs : s.world.settings = c.settings) (htime : 0 < time) :
    job ∈ s.ringing time ↔ c.IsTick job time := by
  have hjob : job ∈ Settings.jobs := by cases job <;> decide
  have htick := hc.ticks job
  simp only [ringing, hs, List.mem_filter, hjob, htick, true_and, Bool.true_and,
    decide_eq_true_eq, Course.IsTick, Course.period, Nat.mul_comm 1000]
  constructor
  · intro hmod
    obtain ⟨k, hk⟩ := Nat.dvd_of_mod_eq_zero hmod
    refine ⟨k, Nat.pos_of_ne_zero ?_, hk.trans (Nat.mul_comm _ _)⟩
    rintro rfl
    omega
  · rintro ⟨k, -, rfl⟩
    exact Nat.mul_mod_left k _

/-- Looks at a tick of a job, which is put on a list if it is due. -/
def judge (x : List ScanJob × Simulation) (job : ScanJob) : List ScanJob × Simulation :=
  match x.2.world.run (x.2.world.service.tick job (x.2.world.settings.schedule job)
    x.2.world.settings.timezone) with
  | (.ok .due, w) => (x.1 ++ [job], x.2.withWorld w)
  | (_, w) => (x.1, x.2.withWorld w)

theorem ring_eq_foldl (s : Simulation) (jobs : List ScanJob) :
    s.ring jobs = ((jobs.foldl judge ([], s)).1.foldl
      (fun s job => s.withWorld (s.world.spawn job).2) (jobs.foldl judge ([], s)).2).collect :=
  rfl

/-- Of the jobs whose timers go off, those that are found due are started. -/
theorem ring_of_judged {p : ScanJob → Prop} [DecidablePred p] {jobs : List ScanJob}
    (h : ∀ job ∈ jobs, ∃ o, s.world.run (s.world.service.tick job (s.world.settings.schedule job)
      s.world.settings.timezone) = (o, s.world) ∧ (o = .ok .due ↔ p job)) :
    s.ring jobs =
      ((jobs.filter p).foldl (fun s job => s.withWorld (s.world.spawn job).2) s).collect := by
  have hfold : ∀ due : List ScanJob,
      jobs.foldl judge (due, s) = (due ++ jobs.filter p, s) := by
    induction jobs with
    | nil => exact fun due => by simp
    | cons j jobs ih =>
        intro due
        obtain ⟨⟨o, hrun, hdue⟩, hrest⟩ := List.forall_mem_cons.1 h
        rw [List.foldl_cons, List.filter_cons, judge, hrun]
        by_cases hyes : p j
        · obtain rfl := hdue.2 hyes
          rw [if_pos (decide_eq_true hyes)]
          exact (ih hrest _).trans (by rw [List.append_assoc]; rfl)
        · rw [if_neg (by simpa using hyes)]
          refine Eq.trans ?_ (ih hrest due)
          congr 1
          cases o with
          | ok t =>
              cases t with
              | due => exact absurd (hdue.1 rfl) hyes
              | outsideWindow => rfl
              | disabled => rfl
          | failed e => rfl
          | crashed x => rfl
  rw [ring_eq_foldl, hfold []]
  rfl

/-- Where nothing fails the simulated service starts those jobs that are due. -/
theorem ring_eq [DecidablePred fun job => c.Due job time] (hc : c.Fair)
    (hs : s.world.settings = c.settings) (hfaults : s.world.faults = [])
    (hread : ∀ job, c.refused job time = none)
    (hshows : ∀ job, c.Shows job time s.world.memory) (hpos : 0 < time)
    (hbefore : time < c.shutdown) :
    s.ring (s.ringing time) =
      ((Settings.jobs.filter fun job => c.Due job time).foldl
        (fun s job => s.withWorld (s.world.spawn job).2) s).collect := by
  have hfilter : (s.ringing time).filter (fun job => c.Due job time) =
      Settings.jobs.filter fun job => c.Due job time := by
    rw [ringing, List.filter_filter]
    refine List.filter_congr fun job _ => ?_
    by_cases hdue : c.Due job time
    · have hring := (mem_ringing hc hs hpos).2 hdue.tick
      rw [ringing, List.mem_filter] at hring
      rw [hring.2, Bool.and_true]
    · rw [decide_eq_false hdue, Bool.false_and]
  rw [← hfilter]
  refine ring_of_judged fun job hring =>
    ⟨_, ?_, Course.due_iff ((mem_ringing hc hs hpos).1 hring) hbefore (hshows job)⟩
  rw [World.service, hs]
  exact World.run_judging hfaults (hshows job) (hread job) Course.only_tick

end Simulation

end Simulated

end Presence
