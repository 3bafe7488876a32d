import Presence.Proofs.Permits
import Presence.Simulation

/-!
# A loop that a delivery mirrors

The simulation of the running service takes the turns of the consumer and of its handlers in one
fixed order. Whatever its loop does can happen in a delivery with one consumer: a step of the loop
is an event of the consumer, a payload is taken from the same queue, and a handler makes its calls
one after another, refused where a fault is due. The surroundings of the two are compared but for
what no call asks for. Main statements: `Loop.Turn.becomes` for one turn of the loop, and from it
`Loop.becomes_settle` for all turns that the loop takes before it has to wait.
-/

set_option autoImplicit false

namespace Presence

open Operation Program

/-! ## Surroundings but for what no call asks for -/

namespace Queue

/-- The queue without its signal. -/
def quiet (q : Queue) : Queue := { q with signal := false }

theorem quiet_pop (q : Queue) : q.quiet.pop.2.quiet = q.pop.2.quiet := by
  obtain ⟨ready, processing, signal⟩ := q
  cases ready with
  | nil => rfl
  | cons p rest => rfl

end Queue

namespace Memory

variable {m m' : Memory}

/-- The surroundings without the notifications that were sent and without the signal of the
queue. -/
def bare (m : Memory) : Memory := { m with sent := [], queue := m.queue.quiet }

theorem ready_of_bare (h : m.bare = m'.bare) : m.queue.ready = m'.queue.ready :=
  congrArg (fun m => m.queue.ready) h

/-- A change of the queue that does not look at the signal. -/
theorem bare_withQueue {f : Queue → Queue} (hf : ∀ q, (f q.quiet).quiet = (f q).quiet)
    (h : m.bare = m'.bare) :
    bare { m with queue := f m.queue } = bare { m' with queue := f m'.queue } := by
  have hbare (m : Memory) : bare { m with queue := f m.queue } =
      bare { m.bare with queue := f m.bare.queue } := by
    show ({ m with sent := [], queue := (f m.queue).quiet } : Memory) =
      { m with sent := [], queue := (f m.queue.quiet).quiet }
    rw [hf]
  rw [hbare m, h, ← hbare m']

theorem bare_clockAt (h : m.bare = m'.bare) (t : Instant) :
    (m.clockAt t).bare = (m'.clockAt t).bare :=
  congrArg (fun m => m.clockAt t) h

/-- No call asks for the notifications that were sent or for the signal of the queue. -/
theorem serve_bare (c : Call) (m : Memory) :
    (serve c m.bare).1 = (serve c m).1 ∧ (serve c m.bare).2.bare = (serve c m).2.bare := by
  cases c with
  | queue c =>
      cases c with
      | next timeout =>
          obtain ⟨store, ledger, profiles, sent, ⟨ready, processing, signal⟩, rest⟩ := m
          cases ready with
          | cons p ready => exact ⟨rfl, rfl⟩
          | nil =>
              -- an empty queue drops its signal, or there is no such time to wait for
              cases hwait : Queue.canWait timeout <;>
                simp [serve, bare, Queue.quiet, Queue.serve, Queue.next, Queue.pop, hwait]
      | _ => exact ⟨rfl, rfl⟩
  | _ => exact ⟨rfl, rfl⟩

theorem serve_of_bare (h : m.bare = m'.bare) (c : Call) :
    (serve c m).1 = (serve c m').1 ∧ (serve c m).2.bare = (serve c m').2.bare := by
  obtain ⟨hr, ha⟩ := serve_bare c m
  obtain ⟨hr', ha'⟩ := serve_bare c m'
  rw [h] at hr ha
  exact ⟨hr.symm.trans hr', ha.symm.trans ha'⟩

end Memory

namespace World

variable {m : Memory}

theorem settings_refusal (w : World) (c : Call) : (w.refusal c).2.settings = w.settings := by
  unfold refusal
  split <;> rfl

theorem memory_refusal (w : World) (c : Call) : (w.refusal c).2.memory = w.memory := by
  unfold refusal
  split <;> rfl

/-- The failure that a fault makes of a call is one with which its backend can refuse it. -/
theorem refusal_exchange (w : World) (c : Call) (m : Memory) :
    (⟨c, m, (w.refusal c).1⟩ : Exchange).refusal = (w.refusal c).1 := by
  unfold Exchange.refusal refusal
  cases c.site? with
  | none => rfl
  | some s => rfl

/-- A world answers a call as the surroundings do when they refuse it where a fault is due. -/
theorem serve_exchange (w : World) (c : Call) (h : m.bare = w.memory.bare) :
    let x : Exchange := ⟨c, m, (w.refusal c).1⟩
    x.reply = (serve c w).1 ∧ x.after.bare = (serve c w).2.memory.bare ∧
      (serve c w).2.settings = w.settings := by
  intro x
  have hs := w.settings_refusal c
  have hm := w.memory_refusal c
  have hx : x.refusal = (w.refusal c).1 := w.refusal_exchange c m
  unfold Exchange.reply Exchange.after serve
  rw [hx]
  generalize w.refusal c = r at hs hm ⊢
  obtain ⟨failure, w'⟩ := r
  cases failure with
  | some e => exact ⟨rfl, by rw [h, ← hm], hs⟩
  | none =>
      obtain ⟨hr, ha⟩ := Memory.serve_of_bare (h.trans (congrArg Memory.bare hm.symm)) c
      exact ⟨hr, ha, hs⟩

theorem service_of_settings {w w' : World} (h : w'.settings = w.settings) :
    w'.service = w.service := congrArg Settings.service h

theorem settings_run {α : Type} (op : Operation α) (w : World) :
    (w.run op).2.settings = w.settings := by
  induction op generalizing w with
  | done o => rfl
  | call c next ih =>
      obtain ⟨-, -, hs⟩ := w.serve_exchange c rfl
      exact (ih _ _).trans hs

end World

/-! ## The calls of others -/

namespace Delivery

variable {s : Service} {D : Delivery} {w : World}

theorem play_append (as bs : List Occurrence) (D : Delivery) :
    D.play s (as ++ bs) = (D.play s as).play s bs := by
  induction as generalizing D with
  | nil => rfl
  | cons a rest ih => exact ih _

/-- A consumer crashes. -/
def isCrash : Occurrence → Bool
  | .crash _ => true
  | _ => false

/-- Nobody crashes. -/
def Peaceful (as : List Occurrence) : Prop := ∀ a ∈ as, isCrash a = false

theorem peaceful_nil : Peaceful [] := List.forall_mem_nil _

theorem Peaceful.cons {a : Occurrence} {as : List Occurrence} (ha : isCrash a = false)
    (h : Peaceful as) : Peaceful (a :: as) := List.forall_mem_cons.2 ⟨ha, h⟩

theorem peaceful_singleton {a : Occurrence} (ha : isCrash a = false) : Peaceful [a] :=
  peaceful_nil.cons ha

theorem Peaceful.append {as bs : List Occurrence} (h : Peaceful as) (h' : Peaceful bs) :
    Peaceful (as ++ bs) :=
  fun a ha => (List.mem_append.1 ha).elim (h a) (h' a)

theorem occur_other {c : Call} (h : c.isQueue = false) (D : Delivery) (refused : Option Failure) :
    D.occur s (.other c refused) =
      { D with memory := (⟨c, D.memory, refused⟩ : Exchange).after } :=
  if_neg (Bool.eq_false_iff.1 h)

/-- A consumer that accepts the first payload that is ready takes it, and a handler starts. -/
theorem takePayload_of_ready {i : Nat} {p : String} {ps : List String} {c c' : Consumer}
    (hready : D.memory.queue.ready = p :: ps) (hc : D.consumers i = some c)
    (hstep : c.step? (.taken p) = some c') :
    D.takePayload s i =
      { D.withConsumer i (some c') with
        memory := { D.memory with queue := D.memory.queue.pop.2 }
        handlers := D.handlers ++ [⟨i, p, s.handle p⟩] } := by
  simp only [takePayload, hready, hc, hstep]

/-- What makes no call on the queue runs in a delivery as in a world, as one of the others. -/
theorem exists_others {α : Type} {op : Operation α} (hop : op.Only fun c => c.isQueue = false)
    (hm : D.memory.bare = w.memory.bare) :
    ∃ as, Peaceful as ∧ (D.play s as).memory.bare = (w.run op).2.memory.bare ∧
      (D.play s as).consumers = D.consumers ∧ (D.play s as).handlers = D.handlers := by
  induction op generalizing D w with
  | done o => exact ⟨[], peaceful_nil, hm, rfl, rfl⟩
  | call c next ih =>
      let refused := (w.refusal c).1
      obtain ⟨-, hafter, -⟩ := w.serve_exchange c hm
      have hfirst : (D.occur s (.other c refused)).memory.bare =
          (World.serve c w).2.memory.bare := by
        rw [D.occur_other hop.1]
        exact hafter
      obtain ⟨as, has, hmem, hcons, hhand⟩ := ih _ (hop.2 _) hfirst
      refine ⟨.other c refused :: as, has.cons rfl, hmem, ?_, ?_⟩
      · exact hcons.trans (D.consumers_other c refused)
      · exact hhand.trans (D.handlers_other c refused)

/-- The first handler runs to its end in a delivery as in a world. -/
theorem exists_serves {p : String} {rest : Operation PayloadStatus} {hs : List Handler}
    (hm : D.memory.bare = w.memory.bare) (hh : D.handlers = ⟨0, p, rest⟩ :: hs) :
    ∃ as, Peaceful as ∧ (D.play s as).memory.bare = (w.run rest).2.memory.bare ∧
      (D.play s as).consumers = D.consumers ∧
      ∃ o, (D.play s as).handlers = ⟨0, p, .done o⟩ :: hs := by
  -- the induction is on what is left of the handler; each call is refused as the world refuses it
  induction rest generalizing D w with
  | done o => exact ⟨[], peaceful_nil, hm, rfl, o, hh⟩
  | call c next ih =>
      let refused := (w.refusal c).1
      obtain ⟨hreply, hafter, -⟩ := w.serve_exchange c hm
      have hserve : D.serveHandler 0 refused = { D with
          memory := (⟨c, D.memory, refused⟩ : Exchange).after
          handlers := ⟨0, p, next (World.serve c w).1⟩ :: hs
          processed := (D.serveHandler 0 refused).processed } := by
        unfold serveHandler
        rw [hh, ← hreply]
        rfl
      obtain ⟨as, has, hmem, hcons, o, hhand⟩ :=
        ih (World.serve c w).1 (D := D.serveHandler 0 refused) (w := (World.serve c w).2)
          (by rw [hserve]; exact hafter) (by rw [hserve])
      refine ⟨.serve 0 refused :: as, has.cons rfl, hmem, ?_, o, hhand⟩
      exact hcons.trans (D.consumers_serveHandler 0 refused)

end Delivery

/-! ## The loop and a delivery that mirrors it -/

/-- A delivery mirrors a loop: it has the same surroundings but for what no call asks for, its
consumer is the one of the loop if that has started, and all handlers are about to start. -/
structure Delivery.Mirrors (D : Delivery) (runs : Bool) (l : Loop) : Prop where
  memory : D.memory.bare = l.world.memory.bare
  consumer : D.consumers 0 = if runs then some l.consumer else none
  handlers : D.handlers = l.consumer.inFlight.map fun p => ⟨0, p, l.world.service.handle p⟩

namespace Loop

variable {runs told : Bool} {time : Nat} {l l' l'' : Loop}

/-- The loop has no handlers in flight once it has stopped. -/
def Ended (l : Loop) : Prop := l.consumer.phase = .stopped → l.consumer.inFlight = []

/-- A loop becomes another one: its settings and the number of its permits stay, and a delivery that
mirrors the one goes on without a crash to one that mirrors the other. -/
structure Becomes (runs : Bool) (l l' : Loop) : Prop where
  settings : l'.world.settings = l.world.settings
  capacity : l'.consumer.capacity = l.consumer.capacity
  ended : l.Ended → l'.Ended
  mirrored : ∀ D : Delivery, D.Mirrors runs l → ∃ as, Delivery.Peaceful as ∧
    (D.play l.world.service as).Mirrors runs l'

theorem Becomes.trans (h : Becomes runs l l') (h' : Becomes runs l' l'') : Becomes runs l l'' where
  settings := h'.settings.trans h.settings
  capacity := h'.capacity.trans h.capacity
  ended hl := h'.ended (h.ended hl)
  mirrored D hD := by
    obtain ⟨as, has, hD'⟩ := h.mirrored D hD
    obtain ⟨bs, hbs, hD''⟩ := h'.mirrored _ hD'
    refine ⟨as ++ bs, has.append hbs, ?_⟩
    rw [Delivery.play_append]
    rwa [World.service_of_settings h.settings] at hD''

/-- A delivery does not see the faults, the deadline, or what no call asks for. -/
theorem Becomes.of_bare (hc : l'.consumer = l.consumer)
    (hs : l'.world.settings = l.world.settings)
    (hm : l'.world.memory.bare = l.world.memory.bare) : Becomes runs l l' where
  settings := hs
  capacity := by rw [hc]
  ended hl := by rwa [Ended, hc]
  mirrored D hD := by
    refine ⟨[], Delivery.peaceful_nil, hD.memory.trans hm.symm, ?_, ?_⟩
    · rw [hc]
      exact hD.consumer
    · rw [hc, World.service_of_settings hs]
      exact hD.handlers

theorem Becomes.refl : Becomes runs l l := .of_bare rfl rfl rfl

/-- Where the consumer stays as it is, a delivery has to follow the surroundings only. -/
theorem Becomes.of_world {w : World} (hs : w.settings = l.world.settings)
    (h : ∀ D : Delivery, D.memory.bare = l.world.memory.bare → ∃ as, Delivery.Peaceful as ∧
      (D.play l.world.service as).memory.bare = w.memory.bare ∧
      (D.play l.world.service as).consumers = D.consumers ∧
      (D.play l.world.service as).handlers = D.handlers) :
    Becomes runs l { l with world := w } where
  settings := hs
  capacity := rfl
  ended hl := hl
  mirrored D hD := by
    obtain ⟨as, has, hmem, hcons, hhand⟩ := h D hD.memory
    refine ⟨as, has, hmem, ?_, ?_⟩
    · rw [hcons]
      exact hD.consumer
    · rw [hhand, World.service_of_settings hs]
      exact hD.handlers

/-- What makes no call on the queue is run by somebody else. -/
theorem becomes_run {α : Type} {op : Operation α} (hop : op.Only fun c => c.isQueue = false)
    (l : Loop) : Becomes runs l { l with world := (l.world.run op).2 } :=
  .of_world (World.settings_run op l.world) fun _ hm => Delivery.exists_others hop hm

/-- What is pushed wakes the loop or leaves a signal, and is ready either way. -/
theorem becomes_push (l : Loop) (payload : String) : Becomes runs l (l.push payload) := by
  have hsubmit : Becomes runs l (l.withQueue (l.queue.submit payload)) := by
    refine .of_world rfl fun D hm =>
      ⟨[.push payload], Delivery.peaceful_singleton rfl, ?_, rfl, rfl⟩
    exact Memory.bare_withQueue (f := fun q => q.submit payload) (fun _ => rfl) hm
  unfold push
  split
  · exact hsubmit.trans (.of_bare rfl rfl rfl)
  · exact hsubmit

end Loop

namespace Consumer

variable {c : Consumer} {e : Event}

/-- An event of the loop leaves the handlers alone. -/
theorem inFlight_after (he : Delivery.isLoopEvent e = true) :
    (c.after e).inFlight = c.inFlight := by
  unfold after
  cases hstep : c.step? e with
  | none => rfl
  | some c' => exact (goesOn_of_step? he hstep).inFlight

theorem phase_of_step?_stopped {c' : Consumer} (hstep : c.step? e = some c')
    (h : c'.phase = .stopped) : c.phase = .stopped ∨ e = .drained := by
  -- the other lines of `step?` name the phase in which they end, or keep the phase
  unfold step? at hstep
  split at hstep <;> grind

/-- A loop stops only when it has found the permits that it waits for. -/
theorem phase_of_after_stopped (h : (c.after e).phase = .stopped) :
    c.phase = .stopped ∨ e = .drained := by
  unfold after at h
  cases hstep : c.step? e with
  | none =>
      rw [hstep] at h
      exact .inl h
  | some c' =>
      rw [hstep] at h
      exact phase_of_step?_stopped hstep h

theorem after_finished {p : String} (hp : p ∈ c.inFlight) :
    c.after (.finished p) = { c with inFlight := c.inFlight.erase p, free := c.free + 1 } := by
  rw [after, step?_finished_eq_some_iff.2 ⟨hp, rfl⟩]
  rfl

theorem after_taken {p : String} (hphase : c.phase = .waiting) :
    c.after (.taken p) = { c with inFlight := c.inFlight ++ [p], phase := .checking } := by
  rw [after, step?_taken_eq_some_iff.2 ⟨hphase, rfl⟩]
  rfl

end Consumer

namespace Loop

variable {runs told : Bool} {time : Nat} {l l' : Loop}

/-- An event of the loop that has nothing to do with handlers happens to the consumer. -/
theorem becomes_after (l : Loop) {e : Consumer.Event} (he : Delivery.isLoopEvent e = true)
    (hdrained : e = .drained → l.consumer.inFlight = []) : Becomes true l (l.after e) where
  settings := rfl
  capacity := l.consumer.capacity_after e
  ended hl hphase := by
    show (l.consumer.after e).inFlight = []
    rw [Consumer.inFlight_after he]
    rcases Consumer.phase_of_after_stopped hphase with h | h
    · exact hl h
    · exact hdrained h
  mirrored D hD := by
    have hoccur : D.occur l.world.service (.loop 0 e) = D.notify 0 e := if_pos he
    refine ⟨[.loop 0 e], Delivery.peaceful_singleton rfl, ?_, ?_, ?_⟩
    · exact (congrArg (fun D : Delivery => D.memory.bare) hoccur).trans hD.memory
    · exact Delivery.consumers_loop (s := l.world.service) _ hD.consumer he rfl
    · refine (congrArg Delivery.handlers hoccur).trans (hD.handlers.trans ?_)
      show _ = (l.consumer.after e).inFlight.map _
      rw [Consumer.inFlight_after he]
      rfl

/-- The loop takes the first payload that is ready, for which a handler starts, or goes on. -/
theorem becomes_take (hphase : l.consumer.phase = .waiting) : Becomes true l l.take := by
  cases hready : l.queue.ready with
  | nil =>
      have htake : l.take = l.after .nothing := by
        rw [take, Queue.pop, hready]
      rw [htake]
      exact l.becomes_after rfl (by simp)
  | cons p rest =>
      have htake : l.take = (l.withQueue l.queue.pop.2).after (.taken p) := by
        rw [take, Queue.pop, hready]
      have htaken := Consumer.after_taken (p := p) hphase
      have hconsumer : l.take.consumer =
          { l.consumer with inFlight := l.consumer.inFlight ++ [p], phase := .checking } := by
        rw [htake]
        exact htaken
      refine ⟨by rw [htake]; rfl, by rw [hconsumer], fun _ h => ?_, fun D hD => ?_⟩
      · rw [hconsumer] at h
        cases h
      · have hoccur := Delivery.takePayload_of_ready (s := l.world.service)
          ((Memory.ready_of_bare hD.memory).trans hready) hD.consumer
          (Consumer.step?_taken_eq_some_iff.2 ⟨hphase, rfl⟩)
        refine ⟨[.take 0], Delivery.peaceful_singleton rfl, ?_, ?_, ?_⟩
        · show (D.takePayload l.world.service 0).memory.bare = _
          rw [hoccur, htake]
          exact Memory.bare_withQueue (f := fun q => q.pop.2) Queue.quiet_pop hD.memory
        · show (D.takePayload l.world.service 0).consumers 0 = _
          rw [hoccur, hconsumer]
          rfl
        · show (D.takePayload l.world.service 0).handlers = _
          rw [hoccur, hconsumer, List.map_append, htake]
          exact congrArg (· ++ _) hD.handlers

/-- The loop reads the queue: it fails, or it takes a payload, or it waits for one. -/
theorem becomes_beginNext (hphase : l.consumer.phase = .waiting) (time : Nat) :
    Becomes true l (l.beginNext time) := by
  have hs := l.world.settings_refusal (.queue (.next (Binary64.ofInt 1)))
  have hm := l.world.memory_refusal (.queue (.next (Binary64.ofInt 1)))
  unfold beginNext
  generalize l.world.refusal (.queue (.next (Binary64.ofInt 1))) = r at hs hm ⊢
  obtain ⟨failure, w⟩ := r
  have hw : Becomes true l { l with world := w } := .of_bare rfl hs (congrArg Memory.bare hm)
  apply hw.trans
  cases failure with
  | some e =>
      refine (becomes_after (e := .refused) _ rfl (by simp)).trans ?_
      exact .of_bare rfl rfl rfl
  | none =>
      dsimp only
      split
      · split
        · -- the signal is gone, which a delivery does not see
          have hquiet : Becomes true { l with world := w }
              (withQueue { l with world := w } w.memory.queue.quiet) := .of_bare rfl rfl rfl
          exact hquiet.trans (becomes_after _ rfl (by simp))
        · exact .of_bare rfl rfl rfl
      · exact becomes_take hphase

/-- Runs the handler of a payload to its end. -/
def handle (l : Loop) (p : String) : Loop :=
  { l with
    consumer := l.consumer.after (.finished p)
    world := (l.world.run (l.world.service.handle p)).2 }

theorem handleAll_eq_foldl (l : Loop) : l.handleAll = l.consumer.inFlight.foldl handle l := rfl

variable {p : String} {ps : List String}

theorem consumer_handle (h : l.consumer.inFlight = p :: ps) :
    (l.handle p).consumer =
      { l.consumer with inFlight := ps, free := l.consumer.free + 1 } := by
  have hp : p ∈ l.consumer.inFlight := h ▸ List.mem_cons_self
  refine (Consumer.after_finished hp).trans ?_
  rw [h, List.erase_cons_head]

/-- The handler that started first makes its calls one after another and goes. -/
theorem becomes_handle (h : l.consumer.inFlight = p :: ps) : Becomes true l (l.handle p) := by
  have hconsumer := consumer_handle h
  have hs : (l.handle p).world.settings = l.world.settings := World.settings_run _ l.world
  refine ⟨hs, by rw [hconsumer], fun hl hphase => ?_, fun D hD => ?_⟩
  · rw [hconsumer] at hphase
    exact absurd (hl hphase) (by rw [h]; exact List.cons_ne_nil p ps)
  · have hhandlers := hD.handlers
    rw [h, List.map_cons] at hhandlers
    obtain ⟨as, has, hmem, hcons, o, hhand⟩ :=
      Delivery.exists_serves (s := l.world.service) hD.memory hhandlers
    -- the handler has ended, and it is the first one that goes
    let D' := D.play l.world.service as
    have hquit : D'.dropHandler 0 =
        { D'.notify 0 (.finished p) with
          handlers := ps.map fun p => ⟨0, p, l.world.service.handle p⟩ } := by
      unfold Delivery.dropHandler
      rw [hhand]
      rfl
    refine ⟨as ++ [.quit 0], has.append (Delivery.peaceful_singleton rfl), ?_⟩
    rw [Delivery.play_append]
    show (D'.dropHandler 0).Mirrors true (l.handle p)
    rw [hquit]
    refine ⟨hmem, ?_, ?_⟩
    · show (D'.notify 0 (.finished p)).consumers 0 = _
      rw [Delivery.notify_self, hcons, hD.consumer]
      rfl
    · rw [hconsumer, World.service_of_settings hs]

/-- The handlers run one after another, and none is left. -/
theorem becomes_foldl_handle (h : l.consumer.inFlight = ps) :
    Becomes true l (ps.foldl handle l) ∧ (ps.foldl handle l).consumer =
      { l.consumer with inFlight := [], free := l.consumer.free + ps.length } := by
  -- the induction is on the payloads in flight, the first started first
  induction ps generalizing l with
  | nil =>
      have hnone : l.consumer = { l.consumer with inFlight := [] } := by rw [← h]
      exact ⟨.refl, hnone⟩
  | cons p ps ih =>
      have hconsumer := consumer_handle h
      obtain ⟨hbecomes, hlast⟩ := ih (l := l.handle p) (by rw [hconsumer])
      refine ⟨(becomes_handle h).trans hbecomes, hlast.trans ?_⟩
      rw [hconsumer, List.length_cons, Nat.add_assoc, Nat.add_comm 1]

theorem becomes_handleAll (l : Loop) : Becomes true l l.handleAll := by
  rw [handleAll_eq_foldl]
  exact (becomes_foldl_handle rfl).1

theorem consumer_handleAll (l : Loop) :
    l.handleAll.consumer = { l.consumer with
      inFlight := [], free := l.consumer.free + l.consumer.inFlight.length } := by
  rw [handleAll_eq_foldl]
  exact (becomes_foldl_handle rfl).2

/-! ## Turns of the loop -/

/-- What a loop that need not wait can do next. -/
inductive Turn (told : Bool) (time : Nat) (l : Loop) : Loop → Prop
  | look (hphase : l.consumer.phase = .checking) : Turn told time l (l.after (.looked told))
  | acquire (hphase : l.consumer.phase = .acquiring) (hfree : 0 < l.consumer.free) :
      Turn told time l ((l.after .acquired).beginNext time)
  | handle (hphase : l.consumer.phase ≠ .checking ∧ l.consumer.phase ≠ .stopped)
      (hin : l.consumer.inFlight ≠ []) : Turn told time l l.handleAll
  | wake (hphase : l.consumer.phase = .waiting) (hin : l.consumer.inFlight = []) :
      Turn told time l { l.take with woken := false }
  | heed (hphase : l.consumer.phase = .waiting) : Turn told time l (l.after .signalChanged)
  | give (hphase : l.consumer.phase = .waiting) : Turn told time l (l.after .nothing)
  | rest (hphase : l.consumer.phase = .pausing) : Turn told time l (l.after .rested)
  | drain (hphase : l.consumer.phase = .draining) (hin : l.consumer.inFlight = [])
      (hfree : l.consumer.awaited ≤ l.consumer.free) : Turn told time l (l.after .drained)

theorem turn_of_once? (h : l.once? told time = some l') : l.Turn told time l' := by
  unfold once? at h
  split at h
  case h_1 hphase =>
    cases h
    exact .look hphase
  case h_2 => cases h
  case h_3 hphase =>
    split at h
    case isTrue hfree =>
      cases h
      exact .acquire hphase hfree
    case isFalse =>
      split at h
      case isTrue => cases h
      case isFalse hin =>
        cases h
        exact .handle (by simp [hphase]) (by simpa using hin)
  case h_4 hchecking hstopped hacquiring =>
    split at h
    case isTrue hin =>
      cases h
      exact .handle ⟨hchecking, hstopped⟩ (by simpa using hin)
    case isFalse hin =>
      replace hin : l.consumer.inFlight = [] := by simpa using hin
      split at h
      case h_1 hphase =>
        split at h
        · cases h
          exact .wake hphase hin
        · split at h
          · cases h
            exact .heed hphase
          · split at h
            · cases h
              exact .give hphase
            · cases h
      case h_2 hphase =>
        split at h
        · cases h
          exact .rest hphase
        · cases h
      case h_3 hwaiting hpausing =>
        split at h
        · cases h
          refine .drain ?_ hin ‹_›
          cases hphase : l.consumer.phase <;> simp_all
        · cases h

/-- Whatever the loop does next a delivery can do. -/
theorem Turn.becomes (h : l.Turn told time l') : Becomes true l l' := by
  cases h with
  | look hphase => exact becomes_after l rfl (by simp)
  | acquire hphase hfree =>
      have hacquired := Consumer.after_acquired hphase hfree
      refine (becomes_after (e := .acquired) l rfl (by simp)).trans
        (becomes_beginNext ?_ time)
      exact congrArg Consumer.phase hacquired
  | handle hphase hin => exact l.becomes_handleAll
  | wake hphase hin => exact (becomes_take hphase).trans (.of_bare rfl rfl rfl)
  | heed hphase => exact becomes_after l rfl (by simp)
  | give hphase => exact becomes_after l rfl (by simp)
  | rest hphase => exact becomes_after l rfl (by simp)
  | drain hphase hin hfree => exact becomes_after l rfl fun _ => hin

theorem becomes_goOn (n : Nat) (l : Loop) : Becomes true l (goOn told time n l) := by
  induction n generalizing l with
  | zero => exact .refl
  | succ n ih =>
      unfold goOn
      cases h : l.once? told time with
      | none => exact .refl
      | some l' => exact (turn_of_once? h).becomes.trans (ih l')

theorem becomes_settle (l : Loop) (told : Bool) (time : Nat) :
    Becomes true l (l.settle told time) := becomes_goOn _ l

end Loop

end Presence
