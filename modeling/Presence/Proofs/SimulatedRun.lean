import Presence.Proofs.SimulatedLoop
import Presence.Proofs.TimerLoops

/-!
# A simulated run is a delivery

The simulated service starts its consumer, lets the deeds of a script happen, lets timers go off and
tells everybody to stop. Main statements:

* `Simulation.run_mirrored`, every simulated run is mirrored by a delivery without a crash, so that
  what holds of all deliveries holds of it, as in `Simulation.run_count_le`: no payload is lost;
* `Simulation.run_stopped`, a run whose consumer has started ends with a consumer that has stopped,
  with all its permits free and no handler in flight;
* `Loop.ends_drain` and `Loop.ends_abandon`, the same for a consumer that empties the queue and for
  one that nobody can tell to stop.
-/

set_option autoImplicit false

namespace Presence

open Operation Program

/-! ## The end of the loop -/

namespace Consumer

variable {c c' : Consumer}

/-- How far a phase is from the end of a loop that was told to stop. -/
def Phase.rank : Phase → Nat
  | .stopped => 0
  | .draining => 1
  | .checking => 3
  | .waiting => 6
  | .pausing => 6
  | .acquiring => 9

/-- A number of turns after which a loop that was told to stop has stopped or rests. -/
def turnsLeft (c : Consumer) : Nat := c.phase.rank + if c.inFlight = [] then 0 else 1

theorem turnsLeft_le (c : Consumer) : c.turnsLeft ≤ c.phase.rank + 1 := by
  unfold turnsLeft
  split <;> omega

theorem Phase.rank_le (p : Phase) : p.rank ≤ 9 := by cases p <;> decide

theorem turnsLeft_lt_of_rank (hin : c'.inFlight = c.inFlight)
    (hrank : c'.phase.rank < c.phase.rank) : c'.turnsLeft < c.turnsLeft := by
  unfold turnsLeft
  rw [hin]
  omega

theorem phase_after_nothing (hphase : c.phase = .waiting) :
    (c.after .nothing).phase = .checking := by
  simp only [after, step?, hphase, Option.getD_some]

theorem phase_after_refused (hphase : c.phase = .waiting) :
    (c.after .refused).phase = .pausing := by
  simp only [after, step?, hphase, Option.getD_some]

end Consumer

namespace Loop

variable {told : Bool} {time : Nat} {l l' : Loop}

theorem phase_take (hphase : l.consumer.phase = .waiting) :
    l.take.consumer.phase = .checking := by
  unfold take
  split
  · exact congrArg Consumer.phase (Consumer.after_taken hphase)
  · exact Consumer.phase_after_nothing hphase

/-- Once it has read the queue the loop is not about to acquire a permit again. -/
theorem rank_beginNext (hphase : l.consumer.phase = .waiting) (time : Nat) :
    (l.beginNext time).consumer.phase.rank ≤ 6 := by
  unfold beginNext
  split
  · show (l.consumer.after .refused).phase.rank ≤ 6
    rw [Consumer.phase_after_refused hphase]
    decide
  · dsimp only
    split
    · split
      · show (l.consumer.after .nothing).phase.rank ≤ 6
        rw [Consumer.phase_after_nothing hphase]
        decide
      · show l.consumer.phase.rank ≤ 6
        rw [hphase]
        decide
    · rw [phase_take (by exact hphase)]
      decide

/-- Every turn of a loop that was told to stop brings its end nearer. -/
theorem Turn.turnsLeft_lt (h : l.Turn true time l') :
    l'.consumer.turnsLeft < l.consumer.turnsLeft := by
  cases h with
  | look hphase =>
      apply Consumer.turnsLeft_lt_of_rank (Consumer.inFlight_after rfl)
      simp [Consumer.after, Consumer.step?, hphase, Consumer.Phase.rank]
  | acquire hphase hfree =>
      have hwaiting := congrArg Consumer.phase (Consumer.after_acquired hphase hfree)
      have hrank := rank_beginNext (l := l.after .acquired) hwaiting time
      have hle := ((l.after .acquired).beginNext time).consumer.turnsLeft_le
      have hlast : 9 ≤ l.consumer.turnsLeft := by
        rw [Consumer.turnsLeft, hphase]
        exact Nat.le_add_right 9 _
      omega
  | handle hphase hin =>
      -- the phase stays, and no handler is left
      rw [consumer_handleAll, Consumer.turnsLeft, Consumer.turnsLeft, if_pos rfl, if_neg hin]
      exact Nat.lt_succ_self _
  | wake hphase hin =>
      have hle := l.take.consumer.turnsLeft_le
      rw [phase_take hphase] at hle
      have hlast : 6 ≤ l.consumer.turnsLeft := by
        rw [Consumer.turnsLeft, hphase]
        exact Nat.le_add_right 6 _
      show l.take.consumer.turnsLeft < l.consumer.turnsLeft
      have hchecking : Consumer.Phase.checking.rank = 3 := rfl
      omega
  | heed hphase =>
      apply Consumer.turnsLeft_lt_of_rank (Consumer.inFlight_after rfl)
      simp [Consumer.after, Consumer.step?, hphase, Consumer.Phase.rank]
  | give hphase =>
      apply Consumer.turnsLeft_lt_of_rank (Consumer.inFlight_after rfl)
      simp [Consumer.after, Consumer.step?, hphase, Consumer.Phase.rank]
  | rest hphase =>
      apply Consumer.turnsLeft_lt_of_rank (Consumer.inFlight_after rfl)
      simp [Consumer.after, Consumer.step?, hphase, Consumer.Phase.rank]
  | drain hphase hin hfree =>
      apply Consumer.turnsLeft_lt_of_rank (Consumer.inFlight_after rfl)
      rw [Consumer.after_drained hphase hfree, hphase]
      exact Nat.zero_lt_one

/-- A loop that was told to stop has to wait after a few turns. -/
theorem once?_goOn {n : Nat} (h : l.consumer.turnsLeft ≤ n) :
    (goOn true time n l).once? true time = none := by
  induction n generalizing l with
  | zero =>
      -- every other phase has a turn left
      have hphase : l.consumer.phase = .stopped := by
        unfold Consumer.turnsLeft at h
        cases hp : l.consumer.phase <;> simp [hp, Consumer.Phase.rank] at h
        rfl
      unfold goOn once?
      rw [hphase]
  | succ n ih =>
      unfold goOn
      cases hnext : l.once? true time with
      | none => exact hnext
      | some l' =>
          have hlt := (turn_of_once? hnext).turnsLeft_lt
          exact ih (by omega)

theorem once?_settle (l : Loop) (time : Nat) :
    (l.settle true time).once? true time = none := by
  apply once?_goOn
  have hle := l.consumer.turnsLeft_le
  have hrank := l.consumer.phase.rank_le
  omega

/-- A loop that was told to stop and has to wait has stopped, or it rests. -/
theorem stopped_or_pausing (hbalanced : l.consumer.Balanced) (hpos : 0 < l.consumer.capacity)
    (h : l.once? true time = none) :
    l.consumer.phase = .stopped ∨ l.consumer.phase = .pausing ∧ time < l.deadline := by
  have hpermits := hbalanced.permits
  unfold Consumer.held at hpermits
  unfold once? at h
  cases hphase : l.consumer.phase with
  | stopped => exact .inl rfl
  | checking => simp [hphase] at h
  | acquiring =>
      -- a loop without handlers has a free permit
      simp only [hphase] at h hpermits
      split at h
      · cases h
      · rename_i hfree
        split at h
        · rename_i hin
          rw [List.isEmpty_iff.1 hin, List.length_nil] at hpermits
          omega
        · cases h
  | waiting =>
      -- it hears that it is to stop
      simp only [hphase, if_true] at h
      split at h
      · cases h
      · split at h <;> cases h
  | pausing =>
      simp only [hphase] at h
      split at h
      · cases h
      · split at h
        · cases h
        · rename_i hearly
          exact .inr ⟨rfl, Nat.lt_of_not_le hearly⟩
  | draining =>
      simp only [hphase] at h hpermits
      split at h
      · cases h
      · rename_i hin
        split at h
        · cases h
        · rename_i hfree
          replace hin : l.consumer.inFlight = [] := by simpa using hin
          have hword : l.consumer.awaited ≤ l.consumer.capacity := Nat.mod_le _ _
          rw [hin, List.length_nil] at hpermits
          omega

/-- A loop takes nothing any more: it will look whether it was told to stop, or waits for its
permits, or has stopped. -/
def Leaving (time : Nat) (l : Loop) : Prop :=
  l.consumer.phase = .checking ∨ l.consumer.phase = .draining ∨ l.consumer.phase = .stopped ∨
    l.consumer.phase = .pausing ∧ l.deadline ≤ time

theorem deadline_handleAll (l : Loop) : l.handleAll.deadline = l.deadline := by
  have hfold (ps : List String) (l : Loop) : (ps.foldl handle l).deadline = l.deadline := by
    induction ps generalizing l with
    | nil => rfl
    | cons p ps ih => exact ih (l.handle p)
  rw [handleAll_eq_foldl]
  exact hfold l.consumer.inFlight l

/-- A loop that was told to stop and takes nothing any more does not begin to do so again. -/
theorem Turn.leaving (h : l.Turn true time l') (hl : l.Leaving time) : l'.Leaving time := by
  cases h with
  | look hphase =>
      refine .inr (.inl ?_)
      show (l.consumer.after (.looked true)).phase = .draining
      simp [Consumer.after, Consumer.step?, hphase]
  | acquire hphase hfree => simp [Leaving, hphase] at hl
  | handle hphase hin =>
      unfold Leaving
      rw [consumer_handleAll, deadline_handleAll]
      exact hl
  | wake hphase hin => simp [Leaving, hphase] at hl
  | heed hphase => simp [Leaving, hphase] at hl
  | give hphase => simp [Leaving, hphase] at hl
  | rest hphase =>
      refine .inl ?_
      show (l.consumer.after .rested).phase = .checking
      simp [Consumer.after, Consumer.step?, hphase]
  | drain hphase hin hfree =>
      refine .inr (.inr (.inl ?_))
      exact congrArg Consumer.phase (Consumer.after_drained hphase hfree)

theorem leaving_goOn (n : Nat) (hl : l.Leaving time) : (goOn true time n l).Leaving time := by
  induction n generalizing l with
  | zero => exact hl
  | succ n ih =>
      unfold goOn
      cases h : l.once? true time with
      | none => exact hl
      | some l' => exact ih ((turn_of_once? h).leaving hl)

/-! ## Loops that were started -/

/-- A loop was started in a world with a number of permits, and a delivery that began there mirrors
it. -/
structure Reached (w : World) (n : Nat) (runs : Bool) (l : Loop) : Prop where
  settings : l.world.settings = w.settings
  capacity : l.consumer.capacity = max 1 n
  ended : l.Ended
  mirrored : ∃ as, Delivery.Peaceful as ∧
    (Delivery.play w.service as { memory := w.memory }).Mirrors runs l

variable {w : World} {n : Nat} {runs : Bool}

theorem Reached.becomes (h : Reached w n runs l) (h' : Becomes runs l l') :
    Reached w n runs l' := by
  obtain ⟨as, has, hD⟩ := h.mirrored
  obtain ⟨bs, hbs, hD'⟩ := h'.mirrored _ hD
  refine ⟨h'.settings.trans h.settings, h'.capacity.trans h.capacity, h'.ended h.ended,
    as ++ bs, has.append hbs, ?_⟩
  rw [Delivery.play_append]
  rwa [World.service_of_settings h.settings] at hD'

/-- The permits of a consumer that was started add up, as they do in every delivery. -/
theorem Reached.balanced (h : Reached w n true l) : l.consumer.Balanced := by
  obtain ⟨as, -, hD⟩ := h.mirrored
  have hcounts := (Delivery.counted_of_memory w.memory).play (s := w.service) as 0
  rw [hD.consumer] at hcounts
  exact hcounts.1

/-- A start gives back what was taken before. The consumer runs unless the queue has refused that or
there are to be too many permits. -/
theorem reached_start (w : World) (n : Nat) :
    Reached w n (start w n).1.isOk (start w n).2 := by
  have hx := w.serve_exchange (.queue .requeue) rfl
  have hrun : w.run requeue = World.serve (.queue .requeue) w := rfl
  unfold start
  rw [hrun]
  generalize World.serve (.queue .requeue) w = r at hx ⊢
  obtain ⟨o, w'⟩ := r
  obtain ⟨hreply, hafter, hs⟩ := hx
  let refused := (w.refusal (.queue .requeue)).1
  have hfresh (runs : Bool) (hruns : runs =
      (o.isOk && decide ((Consumer.start n).capacity ≤ Consumer.mostPermits))) :
      Reached w n runs ⟨Consumer.start n, w', 0, false⟩ := by
    refine ⟨hs, rfl, by simp [Ended, Consumer.start], [.start 0 n refused],
      Delivery.peaceful_singleton rfl, ?_, ?_, rfl⟩
    · exact hafter
    · replace hreply : (⟨.queue .requeue, w.memory, refused⟩ : Exchange).reply = o := hreply
      rw [hruns, ← hreply]
      rfl
  cases o with
  | failed e => exact hfresh false rfl
  | crashed c => exact hfresh false rfl
  | ok k =>
      dsimp only
      split
      · rename_i hmany
        refine hfresh false ?_
        rw [decide_eq_false (Nat.not_le.2 hmany)]
        rfl
      · rename_i hfew
        refine (hfresh true ?_).becomes (becomes_settle _ false 0)
        rw [decide_eq_true (Nat.not_lt.1 hfew)]
        rfl

theorem becomes_untilEmpty (k time : Nat) (l : Loop) :
    Becomes true l (untilEmpty k time l).2 := by
  induction k generalizing time l with
  | zero => exact .refl
  | succ k ih =>
      unfold untilEmpty
      split
      · exact .refl
      · split
        · exact (becomes_settle l false l.deadline).trans (ih _ _)
        · exact .refl

theorem becomes_stop (l : Loop) (time : Nat) : Becomes true l (l.stop time).2 := by
  unfold stop
  dsimp only
  split
  · exact becomes_settle l true time
  · exact (becomes_settle l true time).trans (becomes_settle _ true _)

theorem Reached.stopped_or_pausing_settle (h : Reached w n true l) (time : Nat) :
    (l.settle true time).consumer.phase = .stopped ∨
      (l.settle true time).consumer.phase = .pausing ∧ time < (l.settle true time).deadline := by
  have hsettled := h.becomes (becomes_settle l true time)
  refine stopped_or_pausing hsettled.balanced ?_ (once?_settle l time)
  rw [hsettled.capacity]
  exact Nat.le_max_left 1 n

/-- A loop that takes nothing any more ends where it has to wait. -/
theorem Reached.phase_settle (h : Reached w n true l) (hl : l.Leaving time) :
    (l.settle true time).consumer.phase = .stopped := by
  have hleaving : (l.settle true time).Leaving time := leaving_goOn _ hl
  rcases h.stopped_or_pausing_settle time with hlast | ⟨hlast, hearly⟩
  · exact hlast
  · unfold Leaving at hleaving
    rw [hlast] at hleaving
    rcases hleaving with hl | hl | hl | ⟨-, hl⟩
    · cases hl
    · cases hl
    · cases hl
    · exact absurd hl (Nat.not_le.2 hearly)

/-- A loop that is told to stop does so, at the latest when it has rested. -/
theorem Reached.phase_stop (h : Reached w n true l) (time : Nat) :
    (l.stop time).2.consumer.phase = .stopped := by
  unfold stop
  dsimp only
  split
  case isTrue hdone => exact of_decide_eq_true hdone
  case isFalse hdone =>
    rcases h.stopped_or_pausing_settle time with hphase | ⟨hphase, -⟩
    · exact absurd (decide_eq_true hphase) hdone
    · have hsettled := h.becomes (becomes_settle l true time)
      exact hsettled.phase_settle (.inr (.inr (.inr ⟨hphase, Nat.le_max_right _ _⟩)))

/-- A loop that has stopped has all its permits and no handler. -/
theorem Reached.consumer_of_stopped (h : Reached w n true l)
    (hphase : l.consumer.phase = .stopped) : l.consumer = ⟨max 1 n, max 1 n, [], .stopped⟩ := by
  have hin := h.ended hphase
  have hcapacity := h.capacity
  have hpermits := h.balanced.permits
  rw [Consumer.held, hphase, hin, hcapacity] at hpermits
  generalize l.consumer = c at hphase hin hcapacity hpermits ⊢
  obtain ⟨capacity, free, inFlight, phase⟩ := c
  obtain rfl : phase = .stopped := hphase
  obtain rfl : inFlight = [] := hin
  obtain rfl : capacity = max 1 n := hcapacity
  obtain rfl : free = max 1 n := hpermits
  rfl

/-- A loop that is told to stop ends with all its permits and without a handler. -/
theorem Reached.stop (h : Reached w n true l) (time : Nat) : Reached w n true (l.stop time).2 ∧
    (l.stop time).2.consumer = ⟨max 1 n, max 1 n, [], .stopped⟩ := by
  have hstop := h.becomes (becomes_stop l time)
  exact ⟨hstop, hstop.consumer_of_stopped (h.phase_stop time)⟩

/-- A loop that nobody can tell to stop any more ends likewise. -/
theorem Reached.abandon (h : Reached w n true l) (time : Nat) : Reached w n true (l.abandon time) ∧
    (l.abandon time).consumer = ⟨max 1 n, max 1 n, [], .stopped⟩ := by
  have hlast (l' : Loop) (h' : Reached w n true l') (hl : l'.Leaving time) :
      Reached w n true (l'.settle true time) ∧
        (l'.settle true time).consumer = ⟨max 1 n, max 1 n, [], .stopped⟩ := by
    have hsettled := h'.becomes (becomes_settle l' true time)
    exact ⟨hsettled, hsettled.consumer_of_stopped (h'.phase_settle hl)⟩
  unfold Loop.abandon
  split
  case isTrue hphase =>
    -- it waits for its permits
    refine hlast _ (h.becomes (becomes_after l rfl (by simp))) (.inr (.inl ?_))
    show (l.consumer.after .signalLost).phase = .draining
    simp [Consumer.after, Consumer.step?, hphase]
  case isFalse =>
    exact hlast _ (h.stop time).1 (.inr (.inr (.inl (h.phase_stop time))))

/-- The worlds in which a consumer ends, if it has started: it has stopped there, with all its
permits and without a handler, and a delivery leads there. -/
def Ends (w : World) (n : Nat) (runs : Bool) (w' : World) : Prop :=
  ∃ l, Reached w n runs l ∧ l.world = w' ∧
    (runs = true → l.consumer = ⟨max 1 n, max 1 n, [], .stopped⟩)

theorem ends_drain (w : World) (n : Nat) : Ends w n (drain w n).1.isOk (drain w n).2 := by
  have hstart := reached_start w n
  unfold drain
  generalize start w n = r at hstart ⊢
  obtain ⟨o, l⟩ := r
  cases o with
  | failed e => exact ⟨l, hstart, rfl, by simp [Outcome.isOk]⟩
  | crashed c => exact ⟨l, hstart, rfl, by simp [Outcome.isOk]⟩
  | ok u =>
      have hempty := hstart.becomes (becomes_untilEmpty 64 0 l)
      obtain ⟨hreached, hconsumer⟩ := hempty.stop (untilEmpty 64 0 l).1
      exact ⟨_, hreached, rfl, fun _ => hconsumer⟩

theorem ends_abandon (w : World) :
    Ends w w.settings.workerConcurrency w.abandon.1.isOk w.abandon.2.2 := by
  have hstart := reached_start w w.settings.workerConcurrency
  unfold World.abandon
  generalize start w w.settings.workerConcurrency = r at hstart ⊢
  obtain ⟨o, l⟩ := r
  cases o with
  | failed e => exact ⟨l, hstart, rfl, by simp [Outcome.isOk]⟩
  | crashed c => exact ⟨l, hstart, rfl, by simp [Outcome.isOk]⟩
  | ok u =>
      obtain ⟨hreached, hconsumer⟩ := hstart.abandon 5
      exact ⟨_, hreached, rfl, fun _ => hconsumer⟩

end Loop

/-! ## The running service -/

namespace Service

theorem only_tick_isQueue (s : Service) (job : ScanJob) (schedule : Schedule) (zone : Zone) :
    (s.tick job schedule zone).Only fun c => c.isQueue = false := by
  refine Only.bind (only_ask rfl) fun now => ?_
  split
  · exact Only.bind (Only.bind (only_ask rfl) fun _ => only_pure _) fun _ => only_pure _
  · exact only_pure _

theorem only_scan (s : Service) (job : ScanJob) : (s.scan job).Only fun c => c.isQueue = false := by
  obtain ⟨p, hp, hscan⟩ := s.scan_eq job
  rw [hscan]
  refine Only.bind (only_ask rfl) fun entered => ?_
  split
  · refine Only.bind (Only.ensuring (hp.mono fun c hc => ?_) (only_ask rfl)) fun _ => only_pure _
    cases hc <;> rfl
  · exact Only.bind (only_ask rfl) fun _ => only_pure _

end Service

namespace Simulation

variable {s s' s'' : Simulation}

/-- The running service goes on: its loop becomes another one, and whether the consumer has started
stays as it was found. -/
structure GoesOn (s s' : Simulation) : Prop where
  result : s'.result = s.result
  becomes : Loop.Becomes s.result.isOk s.loop s'.loop

theorem GoesOn.refl : GoesOn s s := ⟨rfl, .refl⟩

theorem GoesOn.trans (h : GoesOn s s') (h' : GoesOn s' s'') : GoesOn s s'' :=
  ⟨h'.result.trans h.result, h.becomes.trans (h.result ▸ h'.becomes)⟩

theorem GoesOn.foldl {β : Type} {f : Simulation → β → Simulation}
    (h : ∀ s b, GoesOn s (f s b)) (bs : List β) (s : Simulation) : GoesOn s (bs.foldl f s) := by
  induction bs generalizing s with
  | nil => exact .refl
  | cons b bs ih => exact (h s b).trans (ih (f s b))

/-- What makes no call on the queue may run at any time. -/
theorem goesOn_run {α : Type} {op : Operation α} (hop : op.Only fun c => c.isQueue = false)
    (s : Simulation) : GoesOn s (s.withWorld (s.world.run op).2) :=
  ⟨rfl, Loop.becomes_run hop s.loop⟩

theorem goesOn_atTime (s : Simulation) (time : Nat) : GoesOn s (s.atTime time) := by
  refine ⟨rfl, .of_world rfl fun D hm => ?_⟩
  exact ⟨[.clock _], Delivery.peaceful_singleton rfl,
    Memory.bare_clockAt hm _, rfl, rfl⟩

theorem goesOn_settle (s : Simulation) : GoesOn s s.settle := by
  unfold settle
  split
  case h_1 u hok =>
    refine ⟨rfl, ?_⟩
    rw [hok]
    exact Loop.becomes_settle s.loop false s.time
  case h_2 => exact .refl

theorem goesOn_apply (s : Simulation) (d : Deed) : GoesOn s (s.apply d) := by
  cases d with
  | enqueue event =>
      -- a refusal counts the call of a fault, which a delivery does not see
      have hs := s.world.settings_refusal (.queue (.enqueue event))
      have hm := s.world.memory_refusal (.queue (.enqueue event))
      unfold apply
      dsimp only
      generalize s.world.refusal (.queue (.enqueue event)) = r at hs hm ⊢
      obtain ⟨failure, w⟩ := r
      have hw : Loop.Becomes s.result.isOk s.loop { s.loop with world := w } :=
        .of_bare rfl hs (congrArg Memory.bare hm)
      cases failure with
      | some e => exact ⟨rfl, hw⟩
      | none => exact ⟨rfl, hw.trans (Loop.becomes_push _ _)⟩
  | push payload => exact ⟨rfl, Loop.becomes_push s.loop payload⟩
  | switch job active => exact goesOn_run (only_ask rfl) s
  | setScore set member value =>
      refine ⟨rfl, .of_world rfl fun D hm => ?_⟩
      let call : Call := .store (.setScore set member value)
      refine ⟨[.other call none], Delivery.peaceful_singleton rfl, ?_, rfl, rfl⟩
      exact (Memory.serve_of_bare hm call).2

theorem goesOn_collect (s : Simulation) : GoesOn s s.collect := ⟨rfl, .of_bare rfl rfl rfl⟩

theorem goesOn_judge (x : List ScanJob × Simulation) (job : ScanJob) :
    GoesOn x.2 (judge x job).2 := by
  have hrun := goesOn_run (s := x.2) (x.2.world.service.only_tick_isQueue job
    (x.2.world.settings.schedule job) x.2.world.settings.timezone)
  unfold judge
  split
  case h_1 w hdue =>
    rw [hdue] at hrun
    exact hrun
  case h_2 o w _ hother =>
    rw [hother] at hrun
    exact hrun

theorem goesOn_spawn (s : Simulation) (job : ScanJob) :
    GoesOn s (s.withWorld (s.world.spawn job).2) := by
  have hspawn : (s.world.spawn job).2 = (s.world.run (s.world.service.scan job)).2 := by
    unfold World.spawn
    split
    case h_1 c w hcrashed => rw [hcrashed]
    case h_2 o w _ hother => rw [hother]
  rw [hspawn]
  exact goesOn_run (s.world.service.only_scan job) s

theorem goesOn_ring (s : Simulation) (jobs : List ScanJob) : GoesOn s (s.ring jobs) := by
  have hjudged (x : List ScanJob × Simulation) : GoesOn x.2 (jobs.foldl judge x).2 := by
    induction jobs generalizing x with
    | nil => exact .refl
    | cons job jobs ih => exact (goesOn_judge x job).trans (ih (judge x job))
  rw [ring_eq_foldl]
  refine GoesOn.trans ?_ (goesOn_collect _)
  exact (hjudged ([], s)).trans (GoesOn.foldl goesOn_spawn _ _)

/-- One round of a run: the deeds of its time, the turns of the loop, and then the timers. -/
theorem goesOn_play (finish n : Nat) (script : Script) (s : Simulation) :
    GoesOn s (play finish n script s) := by
  induction n generalizing script s with
  | zero => exact .refl
  | succ n ih =>
      unfold play
      dsimp only
      have hround (time : Nat) (here : Script) :
          GoesOn s (here.foldl (fun s e => s.apply e.2) (s.atTime time)).settle :=
        ((goesOn_atTime s time).trans (.foldl (fun s e => goesOn_apply s e.2) here _)).trans
          (goesOn_settle _)
      split
      · exact hround _ _
      · split
        · exact ((hround _ _).trans (goesOn_ring _ _)).trans (ih _ _)
        · exact (hround _ _).trans (ih _ _)

/-- The running service right after its start. -/
def begun (w : World) : Simulation :=
  { loop := (Loop.start w w.settings.workerConcurrency).2
    result := (Loop.start w w.settings.workerConcurrency).1
    origin := w.clock.now }

/-- The running service before everybody is told to stop. -/
def played (w : World) (script : Script) (finish : Nat) : Simulation :=
  play finish (finish + script.length + 2) script (begun w)

theorem run_eq (w : World) (script : Script) (finish : Nat) :
    run w script finish = (played w script finish).stop := rfl

theorem reached_played (w : World) (script : Script) (finish : Nat) :
    (played w script finish).loop.Reached w w.settings.workerConcurrency
      (played w script finish).result.isOk := by
  have hstart := Loop.reached_start w w.settings.workerConcurrency
  have hplay := goesOn_play finish (finish + script.length + 2) script (begun w)
  have hresult : (played w script finish).result = (begun w).result := hplay.result
  rw [hresult]
  exact Loop.Reached.becomes hstart hplay.becomes

variable {w : World} {n : Nat}

/-- When everybody is told to stop the loop does so, unless it has not started. -/
theorem reached_stop (h : s.loop.Reached w n s.result.isOk) :
    s.stop.2.loop.Reached w n s.stop.2.result.isOk ∧
      (s.stop.2.result.isOk = true →
        s.stop.2.loop.consumer = ⟨max 1 n, max 1 n, [], .stopped⟩) := by
  unfold stop
  split
  case h_1 u hok =>
    rw [hok] at h
    obtain ⟨hreached, hconsumer⟩ := Loop.Reached.stop h s.time
    dsimp only
    rw [hok]
    exact ⟨hreached, fun _ => hconsumer⟩
  case h_2 hfailed =>
    refine ⟨h, fun hok => ?_⟩
    cases hresult : s.result with
    | ok u => exact absurd hresult (hfailed u)
    | failed e => rw [hresult] at hok; cases hok
    | crashed c => rw [hresult] at hok; cases hok

/-- Every run of the service, whatever its script and its faults, is mirrored by a delivery without
a crash that begins with the same surroundings: it ends with the same queue, store, metrics and the
rest, and with the same consumer, which runs there exactly if it has started. -/
theorem run_mirrored (w : World) (script : Script) (finish : Nat) :
    let s := (run w script finish).2
    ∃ as, Delivery.Peaceful as ∧
      (Delivery.play w.service as { memory := w.memory }).Mirrors s.result.isOk s.loop := by
  rw [run_eq]
  exact (reached_stop (reached_played w script finish)).1.mirrored

/-- No payload is lost in a run: as often as a text was in the queue at the start and was pushed
since, it is in the queue at the end or was processed. -/
theorem run_count_le (w : World) (script : Script) (finish : Nat) (payload : String) :
    let s := (run w script finish).2
    ∃ as, Delivery.Peaceful as ∧
      let D := Delivery.play w.service as { memory := w.memory }
      D.Mirrors s.result.isOk s.loop ∧
        w.memory.queue.content.count payload + D.pushed.count payload ≤
          s.world.memory.queue.content.count payload + D.processed.count payload := by
  intro s
  obtain ⟨as, has, hD⟩ := run_mirrored w script finish
  refine ⟨as, has, hD, ?_⟩
  have hstart : Delivery.Covered w.memory.queue.content { memory := w.memory } :=
    ⟨by simp, by simp⟩
  have hle := (hstart.play (s := w.service) as).count_le payload
  -- the queues of the two differ in their signals only
  have hqueue := congrArg (fun m => m.queue.content.count payload) hD.memory
  rw [List.count_append] at hle
  exact (Nat.le_add_right _ _).trans (hle.trans (Nat.le_of_eq (congrArg (· + _) hqueue)))

/-- A run whose consumer has started ends with a consumer that has stopped, with all its permits
free and no handler in flight. -/
theorem run_stopped (w : World) (script : Script) (finish : Nat)
    (h : (run w script finish).2.result.isOk = true) :
    let n := max 1 w.settings.workerConcurrency
    (run w script finish).2.loop.consumer = ⟨n, n, [], .stopped⟩ := by
  rw [run_eq] at h ⊢
  exact (reached_stop (reached_played w script finish)).2 h

end Simulation

end Presence
