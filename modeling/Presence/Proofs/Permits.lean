import Presence.Proofs.Delivery
import Presence.Settings.Sources

/-!
# Permits

A consumer has as many permits as it may have handlers in flight. The loop takes a permit before it
looks at the queue; the permit goes on to the handler of the payload that is handed out, or back if
there is none, and the handler gives it back at its end. Main statements:
`Delivery.permits_add_up`, in every state the free permits, the handlers in flight and the permit
that the loop may hold add up to the number of permits, and every payload that was taken has one
handler; `Settings.drains_iff`, a consumer leaves no handler behind when it stops exactly if the
number of its permits is a word of 32 bits, since it waits for that word only.
-/

set_option autoImplicit false

namespace Presence

/-! ## The permits of a consumer -/

namespace Consumer

variable {c c' : Consumer} {e : Event} {p : String}

theorem step?_taken_eq_some_iff :
    c.step? (.taken p) = some c' ↔
      c.phase = .waiting ∧ c' = { c with inFlight := c.inFlight ++ [p], phase := .checking } := by
  cases h : c.phase <;> simp [step?, h, eq_comm]

theorem step?_finished_eq_some_iff :
    c.step? (.finished p) = some c' ↔
      p ∈ c.inFlight ∧ c' = { c with inFlight := c.inFlight.erase p, free := c.free + 1 } := by
  cases h : c.phase <;> simp [step?, h, eq_comm]

theorem after_acquired (hphase : c.phase = .acquiring) (hfree : 0 < c.free) :
    c.after .acquired = { c with free := c.free - 1, phase := .waiting } := by
  simp only [after, step?, hphase, if_pos hfree, Option.getD_some]

theorem after_drained (hphase : c.phase = .draining) (hfree : c.awaited ≤ c.free) :
    c.after .drained = { c with phase := .stopped } := by
  simp only [after, step?, hphase, if_pos hfree, Option.getD_some]

/-- The loop goes on by itself: it leaves the handlers alone, takes its permit from the free ones
and gives it back to them, and has found the permits that it waits for before it stops. -/
structure GoesOn (c c' : Consumer) : Prop where
  capacity : c'.capacity = c.capacity
  inFlight : c'.inFlight = c.inFlight
  permits : c'.free + c'.held = c.free + c.held
  drained : c'.phase = .stopped → c'.awaited ≤ c'.free

/-- The loop changes its phase and keeps its permit, or goes on without one. -/
theorem GoesOn.of_phase {phase : Phase} (hheld : held { c with phase } = c.held)
    (hphase : phase ≠ .stopped) : c.GoesOn { c with phase } :=
  ⟨rfl, rfl, congrArg (c.free + ·) hheld, fun h => absurd h hphase⟩

/-- The loop gives its permit back. -/
theorem GoesOn.of_release {phase : Phase} (hheld : c.held = 1)
    (hphase : phase = .checking ∨ phase = .draining) :
    c.GoesOn { c with free := c.free + 1, phase } := by
  refine ⟨rfl, rfl, ?_, ?_⟩
  · rw [hheld]
    rcases hphase with rfl | rfl <;> rfl
  · rcases hphase with rfl | rfl <;> exact fun h => nomatch h

theorem held_of_waiting (h : c.phase = .waiting) : c.held = 1 := by rw [held, h]

/-- Every event of the loop lets it go on. -/
theorem goesOn_of_step? (he : Delivery.isLoopEvent e = true) (h : c.step? e = some c') :
    c.GoesOn c' := by
  -- the cases are the lines of `step?`; a payload and the end of a handler are no events of the loop
  unfold step? at h
  split at h
  case h_1 told hphase =>
    cases h
    have hheld : c.held = 0 := by rw [held, hphase]
    cases told with
    | false => exact .of_phase hheld.symm (fun h => nomatch h)
    | true => exact .of_phase hheld.symm (fun h => nomatch h)
  case h_2 hphase =>
    split at h
    case isTrue hfree =>
      cases h
      have hheld : c.held = 0 := by rw [held, hphase]
      refine ⟨rfl, rfl, ?_, fun h => nomatch h⟩
      show c.free - 1 + 1 = c.free + c.held
      omega
    case isFalse => cases h
  case h_3 => cases he
  case h_4 hphase =>
    cases h
    exact .of_release (held_of_waiting hphase) (.inl rfl)
  case h_5 hphase =>
    cases h
    exact .of_phase (held_of_waiting hphase).symm (fun h => nomatch h)
  case h_6 hphase =>
    cases h
    exact .of_release (held_of_waiting hphase) (.inl rfl)
  case h_7 hphase =>
    cases h
    exact .of_release (held_of_waiting hphase) (.inr rfl)
  case h_8 hphase =>
    cases h
    exact .of_release (by rw [held, hphase]) (.inl rfl)
  case h_9 hphase =>
    split at h
    case isTrue hfree =>
      cases h
      refine ⟨rfl, rfl, ?_, fun _ => hfree⟩
      show c.free + 0 = c.free + c.held
      rw [held, hphase]
    case isFalse => cases h
  case h_10 => cases he
  case h_11 => cases h

/-- The number of permits never changes. -/
theorem capacity_after (c : Consumer) (e : Event) : (c.after e).capacity = c.capacity := by
  unfold after
  cases hstep : c.step? e with
  | none => rfl
  | some c' =>
      cases e with
      | taken p =>
          obtain ⟨-, rfl⟩ := step?_taken_eq_some_iff.1 hstep
          rfl
      | finished p =>
          obtain ⟨-, rfl⟩ := step?_finished_eq_some_iff.1 hstep
          rfl
      | _ => exact (goesOn_of_step? rfl hstep).capacity

/-- No permit is lost, and a loop that has stopped has found the permits that it waited for. -/
structure Balanced (c : Consumer) : Prop where
  permits : c.free + c.inFlight.length + c.held = c.capacity
  drained : c.phase = .stopped → c.awaited ≤ c.free

theorem balanced_start (n : Nat) : (start n).Balanced := ⟨rfl, fun h => nomatch h⟩

theorem Balanced.goesOn (h : c.Balanced) (hc : c.GoesOn c') : c'.Balanced := by
  refine ⟨?_, hc.drained⟩
  have h1 := h.permits
  have h2 := hc.permits
  rw [hc.inFlight, hc.capacity]
  omega

/-- The permit of the loop goes on to a handler. -/
theorem Balanced.taken (h : c.Balanced) (hphase : c.phase = .waiting) :
    Balanced { c with inFlight := c.inFlight ++ [p], phase := .checking } := by
  refine ⟨?_, fun h => nomatch h⟩
  have h1 := h.permits
  rw [held_of_waiting hphase] at h1
  show c.free + (c.inFlight ++ [p]).length + 0 = c.capacity
  rw [List.length_append, List.length_singleton]
  omega

/-- A handler gives its permit back, whatever the loop does meanwhile. -/
theorem Balanced.finished (h : c.Balanced) (hp : p ∈ c.inFlight) :
    Balanced { c with inFlight := c.inFlight.erase p, free := c.free + 1 } := by
  refine ⟨?_, fun hphase => Nat.le_succ_of_le (h.drained hphase)⟩
  have h1 := h.permits
  have h2 : 0 < c.inFlight.length := List.length_pos_of_mem hp
  show c.free + 1 + (c.inFlight.erase p).length + c.held = c.capacity
  rw [List.length_erase_of_mem hp]
  omega

/-- A consumer that was told to wait for all its permits has no handlers when it has stopped. -/
theorem Balanced.inFlight_eq_nil (h : c.Balanced) (hcapacity : c.capacity < 2 ^ 32)
    (hphase : c.phase = .stopped) : c.inFlight = [] := by
  have h1 := h.permits
  have h2 := h.drained hphase
  have hall : c.awaited = c.capacity := Nat.mod_eq_of_lt hcapacity
  exact List.eq_nil_of_length_eq_zero (by omega)

end Consumer

/-! ## The handlers of a consumer -/

namespace Handler

/-- The payload of a handler, if it is a handler of a consumer. -/
def payloadAt? (i : Nat) (h : Handler) : Option String :=
  if h.consumer = i then some h.payload else none

variable {h : Handler} {i : Nat}

theorem payloadAt?_self : h.payloadAt? h.consumer = some h.payload := if_pos rfl

theorem payloadAt?_of_ne (hi : i ≠ h.consumer) : h.payloadAt? i = none := if_neg (Ne.symm hi)

theorem filterMap_payloadAt?_cons (h : Handler) (hs : List Handler) (i : Nat) :
    (h :: hs).filterMap (payloadAt? i) = (h.payloadAt? i).toList ++ hs.filterMap (payloadAt? i) := by
  cases hp : h.payloadAt? i with
  | none => exact List.filterMap_cons_none hp
  | some p => exact List.filterMap_cons_some hp

end Handler

namespace Delivery

variable {s : Service} {D D' : Delivery} {i : Nat} {o : Option Consumer} {ps qs : List String}

/-- The payloads whose handlers are in flight for a consumer. -/
def carried (D : Delivery) (i : Nat) : List String := D.handlers.filterMap (Handler.payloadAt? i)

theorem carried_of_handlers (hh : D'.handlers = D.handlers) : D'.carried i = D.carried i := by
  rw [carried, hh]
  rfl

/-- A handler that starts carries its payload for its consumer. -/
theorem carried_of_append {h : Handler} (hh : D'.handlers = D.handlers ++ [h]) (i : Nat) :
    D'.carried i = D.carried i ++ (h.payloadAt? i).toList := by
  unfold carried
  rw [hh, List.filterMap_append, Handler.filterMap_payloadAt?_cons, List.filterMap_nil,
    List.append_nil]

/-- A handler that goes on keeps its payload. -/
theorem carried_of_set {j : Nat} {h x : Handler} (hj : D.handlers[j]? = some h)
    (hsame : ∀ i, x.payloadAt? i = h.payloadAt? i) (hh : D'.handlers = D.handlers.set j x)
    (i : Nat) : D'.carried i = D.carried i := by
  obtain ⟨hlt, hget⟩ := List.getElem?_eq_some_iff.1 hj
  -- what a handler carries for a consumer stays in its place
  have hmap : (D.handlers.set j x).map (Handler.payloadAt? i) =
      D.handlers.map (Handler.payloadAt? i) := by
    rw [List.map_set, hsame, ← hget, ← List.getElem_map (Handler.payloadAt? i),
      List.set_getElem_self]
    rwa [List.length_map]
  have hid (hs : List Handler) : hs.filterMap (Handler.payloadAt? i) =
      (hs.map (Handler.payloadAt? i)).filterMap id := by rw [List.filterMap_map]; rfl
  unfold carried
  rw [hh, hid, hmap, ← hid]

/-- A handler that goes takes its payload along. -/
theorem carried_of_eraseIdx {j : Nat} {h : Handler} (hj : D.handlers[j]? = some h)
    (hh : D'.handlers = D.handlers.eraseIdx j) (i : Nat) :
    (D.carried i).Perm ((h.payloadAt? i).toList ++ D'.carried i) := by
  obtain ⟨hlt, hget⟩ := List.getElem?_eq_some_iff.1 hj
  have hperm := (List.getElem_cons_eraseIdx_perm hlt).symm.filterMap (Handler.payloadAt? i)
  rwa [hget, ← hh, Handler.filterMap_payloadAt?_cons] at hperm

theorem withConsumer_self (D : Delivery) (i : Nat) (o : Option Consumer) :
    (D.withConsumer i o).consumers i = o := if_pos rfl

theorem withConsumer_of_ne (D : Delivery) {i k : Nat} (o : Option Consumer) (hi : i ≠ k) :
    (D.withConsumer k o).consumers i = D.consumers i := if_neg hi

theorem notify_self (D : Delivery) (i : Nat) (e : Consumer.Event) :
    (D.notify i e).consumers i = (D.consumers i).map (·.after e) := if_pos rfl

theorem notify_of_ne (D : Delivery) {i k : Nat} (e : Consumer.Event) (hi : i ≠ k) :
    (D.notify k e).consumers i = D.consumers i := if_neg hi

/-- A taking does nothing, or the consumer accepts the first payload that is ready and a handler
starts with it. -/
theorem takePayload_cases (s : Service) (D : Delivery) (k : Nat) :
    D.takePayload s k = D ∨
      ∃ p c c', D.consumers k = some c ∧ c.step? (.taken p) = some c' ∧
        D.memory.queue.ready = p :: (D.takePayload s k).memory.queue.ready ∧
        (D.takePayload s k).consumers = (D.withConsumer k (some c')).consumers ∧
        (D.takePayload s k).handlers = D.handlers ++ [⟨k, p, s.handle p⟩] := by
  unfold takePayload
  split
  case h_1 p rest c hready hc =>
    split
    case h_1 c' hstep =>
      refine .inr ⟨p, c, c', hc, hstep, ?_, rfl, rfl⟩
      rw [Queue.pop, hready]
    case h_2 => exact .inl rfl
  case h_2 => exact .inl rfl

/-- A handler that goes tells its consumer. -/
theorem dropHandler_cases (D : Delivery) (j : Nat) :
    (D.handlers[j]? = none ∧ D.dropHandler j = D) ∨
      ∃ h, D.handlers[j]? = some h ∧
        (D.dropHandler j).consumers = (D.notify h.consumer (.finished h.payload)).consumers ∧
        (D.dropHandler j).handlers = D.handlers.eraseIdx j := by
  unfold dropHandler
  split
  case h_1 h hj => exact .inr ⟨h, hj, rfl, rfl⟩
  case h_2 hj => exact .inl ⟨hj, rfl⟩

/-- A start starts no handler. -/
theorem handlers_startConsumer (D : Delivery) (k n : Nat) (refused : Option Failure) :
    (D.startConsumer k n refused).handlers = D.handlers := by
  unfold startConsumer
  split
  case h_1 => rfl
  case h_2 => rfl

/-- What others do is nothing to the consumers and their handlers. -/
theorem consumers_other (D : Delivery) (c : Call) (refused : Option Failure) :
    (D.occur s (.other c refused)).consumers = D.consumers := by
  cases h : c.isQueue <;> simp [Delivery.occur, h]

theorem handlers_other (D : Delivery) (c : Call) (refused : Option Failure) :
    (D.occur s (.other c refused)).handlers = D.handlers := by
  cases h : c.isQueue <;> simp [Delivery.occur, h]

/-- A call of a handler is nothing to the consumers. -/
theorem consumers_serveHandler (D : Delivery) (j : Nat) (refused : Option Failure) :
    (D.serveHandler j refused).consumers = D.consumers := by
  unfold serveHandler
  split
  case h_1 => rfl
  case h_2 => rfl

theorem carried_serveHandler (D : Delivery) (j : Nat) (refused : Option Failure) (i : Nat) :
    (D.serveHandler j refused).carried i = D.carried i := by
  unfold serveHandler
  split
  case h_1 k p c next hj =>
    exact carried_of_set (x := ⟨k, p, next _⟩) hj (fun _ => rfl) rfl i
  case h_2 => rfl

/-- A consumer and the payloads of its handlers: if it runs it counts just these and its permits add
up, and if it does not run there are none. -/
def Counts : Option Consumer → List String → Prop
  | none, ps => ps = []
  | some c, ps => c.Balanced ∧ c.inFlight.Perm ps

theorem Counts.of_perm (h : Counts o ps) (hps : ps.Perm qs) : Counts o qs := by
  cases o with
  | none =>
      obtain rfl : ps = [] := h
      exact hps.nil_eq.symm
  | some c => exact ⟨h.1, h.2.trans hps⟩

theorem Counts.loop {e : Consumer.Event} (h : Counts o ps) (he : isLoopEvent e = true) :
    Counts (o.map (·.after e)) ps := by
  cases o with
  | none => exact h
  | some c =>
      obtain ⟨hc, hps⟩ := h
      show Counts (some ((c.step? e).getD c)) ps
      cases hstep : c.step? e with
      | none => exact ⟨hc, hps⟩
      | some c' =>
          have hgoes := Consumer.goesOn_of_step? he hstep
          exact ⟨hc.goesOn hgoes, hgoes.inFlight.symm ▸ hps⟩

theorem Counts.taken {c c' : Consumer} {p : String} (h : Counts (some c) ps)
    (hstep : c.step? (.taken p) = some c') : Counts (some c') (ps ++ [p]) := by
  obtain ⟨hphase, rfl⟩ := Consumer.step?_taken_eq_some_iff.1 hstep
  exact ⟨h.1.taken hphase, h.2.append_right [p]⟩

theorem Counts.finished {p : String} (h : Counts o ps) (hps : ps.Perm (p :: qs)) :
    Counts (o.map (·.after (.finished p))) qs := by
  cases o with
  | none =>
      obtain rfl : ps = [] := h
      exact absurd hps.nil_eq (List.cons_ne_nil p qs).symm
  | some c =>
      obtain ⟨hc, hcps⟩ := h
      -- the consumer counts the payload, so it accepts the end of the handler
      have hin := hcps.trans hps
      have hp : p ∈ c.inFlight := hin.mem_iff.2 List.mem_cons_self
      have hstep : c.after (.finished p) =
          { c with inFlight := c.inFlight.erase p, free := c.free + 1 } := by
        rw [Consumer.after, Consumer.step?_finished_eq_some_iff.2 ⟨hp, rfl⟩]
        rfl
      rw [Option.map_some, hstep]
      refine ⟨hc.finished hp, ?_⟩
      simpa using hin.erase p

/-- Every consumer counts its handlers. -/
def Counted (D : Delivery) : Prop := ∀ i, Counts (D.consumers i) (D.carried i)

theorem Counted.carried_of_idle (h : D.Counted) (hidle : D.consumers i = none) :
    D.carried i = [] := by
  have hcounts := h i
  rwa [hidle] at hcounts

/-- What concerns one consumer leaves the others alone. -/
theorem Counted.of_one (h : D.Counted) (k : Nat)
    (hothers : ∀ i, i ≠ k →
      D'.consumers i = D.consumers i ∧ (D.carried i).Perm (D'.carried i))
    (hone : Counts (D'.consumers k) (D'.carried k)) : D'.Counted := by
  intro i
  by_cases hi : i = k
  · rw [hi]
    exact hone
  · obtain ⟨hc, hps⟩ := hothers i hi
    rw [hc]
    exact (h i).of_perm hps

theorem Counted.startConsumer (h : D.Counted) (k n : Nat) (refused : Option Failure) :
    (D.startConsumer k n refused).Counted := by
  unfold Delivery.startConsumer
  split
  case h_1 => exact h
  case h_2 hnone =>
    refine h.of_one k (fun i hi => ⟨if_neg hi, .refl _⟩) ?_
    have hidle : D.carried k = [] := h.carried_of_idle hnone
    dsimp only
    rw [withConsumer_self]
    split
    case isTrue => exact ⟨Consumer.balanced_start n, .of_eq hidle.symm⟩
    case isFalse => exact hidle

theorem Counted.notify {e : Consumer.Event} (h : D.Counted) (k : Nat) (he : isLoopEvent e = true) :
    (D.notify k e).Counted := by
  refine h.of_one k (fun i hi => ⟨D.notify_of_ne e hi, .refl _⟩) ?_
  rw [notify_self]
  exact (h k).loop he

theorem Counted.takePayload (h : D.Counted) (k : Nat) : (D.takePayload s k).Counted := by
  rcases takePayload_cases s D k with hD | ⟨p, c, c', hc, hstep, -, hconsumers, hhandlers⟩
  · rw [hD]
    exact h
  · have hcarried := carried_of_append hhandlers
    refine h.of_one k (fun i hi => ⟨?_, ?_⟩) ?_
    · rw [hconsumers, withConsumer_of_ne _ _ hi]
    · -- the new handler is no handler of another consumer
      rw [hcarried, Handler.payloadAt?_of_ne hi]
      exact .of_eq (List.append_nil _).symm
    · rw [hcarried, hconsumers, withConsumer_self,
        show Handler.payloadAt? k ⟨k, p, s.handle p⟩ = some p from if_pos rfl]
      exact (hc ▸ h k).taken hstep

/-- The permit of a handler that goes comes back, wherever the handler stands. -/
theorem Counted.dropHandler (h : D.Counted) (j : Nat) : (D.dropHandler j).Counted := by
  rcases dropHandler_cases D j with ⟨-, hD⟩ | ⟨x, hj, hconsumers, hhandlers⟩
  · rw [hD]
    exact h
  · have hcarried := carried_of_eraseIdx hj hhandlers
    refine h.of_one x.consumer (fun i hi => ⟨?_, ?_⟩) ?_
    · rw [hconsumers, notify_of_ne _ _ hi]
    · have hperm := hcarried i
      rwa [Handler.payloadAt?_of_ne hi] at hperm
    · have hperm := hcarried x.consumer
      rw [Handler.payloadAt?_self] at hperm
      rw [hconsumers, notify_self]
      exact (h x.consumer).finished hperm

/-- A crash takes all handlers of a consumer along, and no others. -/
theorem carried_crash (D : Delivery) (k i : Nat) :
    (D.occur s (.crash k)).carried i = if i = k then [] else D.carried i := by
  show (D.handlers.filter fun h => h.consumer ≠ k).filterMap (Handler.payloadAt? i) = _
  rw [List.filterMap_filter]
  split
  case isTrue hi =>
    rw [List.filterMap_eq_nil_iff]
    intro h _
    by_cases hk : h.consumer = k
    · simp [hk]
    · rw [hi, Handler.payloadAt?_of_ne (Ne.symm hk), ite_self]
  case isFalse hi =>
    refine List.filterMap_congr fun h _ => ?_
    by_cases hk : h.consumer = k
    · rw [Handler.payloadAt?_of_ne (hk ▸ hi), ite_self]
    · simp [hk]

theorem Counted.crash (h : D.Counted) (k : Nat) : (D.occur s (.crash k)).Counted := by
  have hcarried := carried_crash (s := s) D k
  refine h.of_one k (fun i hi => ⟨if_neg hi, ?_⟩) ?_
  · rw [hcarried, if_neg hi]
  · rw [hcarried, if_pos rfl, show (D.occur s (.crash k)).consumers k = none from if_pos rfl]
    rfl

theorem Counted.occur (h : D.Counted) (a : Occurrence) : (D.occur s a).Counted := by
  cases a with
  | push p => exact h
  | enqueue e refused => exact h
  | start k n refused => exact h.startConsumer k n refused
  | take k => exact h.takePayload k
  | quit j => exact h.dropHandler j
  | clock t => exact h
  | crash k => exact h.crash k
  | serve j refused =>
      intro i
      show Counts ((D.serveHandler j refused).consumers i) ((D.serveHandler j refused).carried i)
      rw [consumers_serveHandler, carried_serveHandler]
      exact h i
  | loop k e =>
      show Counted (if isLoopEvent e then D.notify k e else D)
      split
      case isTrue he => exact h.notify k he
      case isFalse => exact h
  | other c refused =>
      intro i
      rw [consumers_other, carried_of_handlers (D.handlers_other c refused)]
      exact h i

theorem Counted.play (h : D.Counted) (as : List Occurrence) : (D.play s as).Counted := by
  -- the induction is on what happens; everything that can happen keeps the counts
  induction as generalizing D with
  | nil => exact h
  | cons a rest ih => exact ih (h.occur a)

/-! ## What a consumer takes and what becomes of it -/

/-- The payloads that the queue hands out to a consumer when something happens: those that are no
longer ready after a taking. -/
def handedOut (s : Service) (D : Delivery) (i : Nat) : Occurrence → List String
  | .take k =>
    if k = i then
      D.memory.queue.ready.take
        (D.memory.queue.ready.length - (D.takePayload s k).memory.queue.ready.length)
    else []
  | _ => []

/-- The payloads whose handlers at a consumer go when something happens. -/
def ended (D : Delivery) (i : Nat) : Occurrence → List String
  | .quit j => (D.handlers[j]?.bind (Handler.payloadAt? i)).toList
  | _ => []

/-- The payloads that the queue hands out to a consumer while things happen, in their order. -/
def allHandedOut (s : Service) (i : Nat) : List Occurrence → Delivery → List String
  | [], _ => []
  | a :: rest, D => D.handedOut s i a ++ allHandedOut s i rest (D.occur s a)

/-- The payloads whose handlers at a consumer go while things happen, in their order. -/
def allEnded (s : Service) (i : Nat) : List Occurrence → Delivery → List String
  | [], _ => []
  | a :: rest, D => D.ended i a ++ allEnded s i rest (D.occur s a)

/-- A taking starts one handler for what is handed out. -/
theorem carried_takePayload (D : Delivery) (k i : Nat) :
    (D.takePayload s k).carried i = D.carried i ++ D.handedOut s i (.take k) := by
  unfold handedOut
  dsimp only
  rcases takePayload_cases s D k with hD | ⟨p, c, c', -, -, hready, -, hhandlers⟩
  · rw [hD, Nat.sub_self, List.take_zero, ite_self, List.append_nil]
  · rw [carried_of_append hhandlers]
    by_cases hi : k = i
    · -- one payload is no longer ready
      rw [if_pos hi, hready, List.length_cons, Nat.add_sub_cancel_left, List.take_succ_cons,
        List.take_zero, show Handler.payloadAt? i ⟨k, p, s.handle p⟩ = some p from if_pos hi]
      rfl
    · rw [if_neg hi, show Handler.payloadAt? i ⟨k, p, s.handle p⟩ = none from if_neg hi]
      rfl

/-- What is handed out to a consumer gets a handler, which is in flight until it goes. -/
theorem perm_occur {a : Occurrence} (ha : a ≠ .crash i) :
    (D.handedOut s i a ++ D.carried i).Perm (D.ended i a ++ (D.occur s a).carried i) := by
  cases a with
  | push p => exact .refl _
  | enqueue e refused => exact .refl _
  | clock t => exact .refl _
  | start k n refused =>
      show (D.carried i).Perm ((D.startConsumer k n refused).carried i)
      rw [carried_of_handlers (D.handlers_startConsumer k n refused)]
  | take k =>
      show (D.handedOut s i (.take k) ++ D.carried i).Perm ((D.takePayload s k).carried i)
      rw [carried_takePayload]
      exact List.perm_append_comm
  | quit j =>
      show (D.carried i).Perm ((D.handlers[j]?.bind (Handler.payloadAt? i)).toList ++
        (D.dropHandler j).carried i)
      rcases dropHandler_cases D j with ⟨hj, hD⟩ | ⟨x, hj, -, hhandlers⟩
      · rw [hj, hD]
        exact .refl _
      · rw [hj]
        exact carried_of_eraseIdx hj hhandlers i
  | crash k =>
      have hk : i ≠ k := fun e => ha (e ▸ rfl)
      show (D.carried i).Perm ((D.occur s (.crash k)).carried i)
      rw [carried_crash, if_neg hk]
  | serve j refused =>
      show (D.carried i).Perm ((D.serveHandler j refused).carried i)
      rw [carried_serveHandler]
  | loop k e =>
      show (D.carried i).Perm (carried (if isLoopEvent e then D.notify k e else D) i)
      split
      case isTrue => exact .refl _
      case isFalse => exact .refl _
  | other c refused =>
      show (D.carried i).Perm ((D.occur s (.other c refused)).carried i)
      rw [carried_of_handlers (D.handlers_other c refused)]

/-- What was handed out to a consumer that has not crashed has a handler in flight or one that has
gone. -/
theorem perm_play {as : List Occurrence} (has : ∀ a ∈ as, a ≠ .crash i) :
    (allHandedOut s i as D ++ D.carried i).Perm (allEnded s i as D ++ (D.play s as).carried i) := by
  -- the induction is on what happens; equal texts cannot be told apart, so they are counted
  induction as generalizing D with
  | nil => exact .refl _
  | cons a rest ih =>
      obtain ⟨ha, hrest⟩ := List.forall_mem_cons.1 has
      have hone := perm_occur (s := s) (D := D) ha
      have hall := ih (D := D.occur s a) hrest
      rw [List.perm_iff_count] at hone hall ⊢
      intro p
      have h1 := hone p
      have h2 := hall p
      simp only [allHandedOut, allEnded, List.count_append, Delivery.play] at h1 h2 ⊢
      omega

/-- A consumer runs with a number of permits. -/
def Runs (D : Delivery) (i n : Nat) : Prop := ∃ c, D.consumers i = some c ∧ c.capacity = n

theorem Runs.notify {n : Nat} (h : D.Runs i n) (k : Nat) (e : Consumer.Event) :
    (D.notify k e).Runs i n := by
  obtain ⟨c, hc, hn⟩ := h
  by_cases hi : i = k
  · subst hi
    exact ⟨c.after e, by rw [notify_self, hc]; rfl, (c.capacity_after e).trans hn⟩
  · exact ⟨c, by rw [notify_of_ne _ _ hi, hc], hn⟩

/-- A consumer that does not crash runs on with the same number of permits. -/
theorem Runs.occur {n : Nat} {a : Occurrence} (h : D.Runs i n) (ha : a ≠ .crash i) :
    (D.occur s a).Runs i n := by
  obtain ⟨c, hc, hn⟩ := h
  cases a with
  | push p => exact ⟨c, hc, hn⟩
  | enqueue e refused => exact ⟨c, hc, hn⟩
  | clock t => exact ⟨c, hc, hn⟩
  | start k m refused =>
      -- a consumer that runs is not started again
      show (D.startConsumer k m refused).Runs i n
      unfold startConsumer
      split
      case h_1 => exact ⟨c, hc, hn⟩
      case h_2 hnone =>
        have hi : i ≠ k := fun e => Option.some_ne_none c (hc.symm.trans (e ▸ hnone))
        exact ⟨c, (if_neg hi).trans hc, hn⟩
  | take k =>
      show (D.takePayload s k).Runs i n
      rcases takePayload_cases s D k with hD | ⟨p, d, d', hd, hstep, -, hconsumers, -⟩
      · rw [hD]
        exact ⟨c, hc, hn⟩
      · by_cases hi : i = k
        · subst hi
          obtain rfl : c = d := Option.some.inj (hc.symm.trans hd)
          obtain ⟨-, hstep⟩ := Consumer.step?_taken_eq_some_iff.1 hstep
          exact ⟨d', by rw [hconsumers, withConsumer_self], hstep ▸ hn⟩
        · exact ⟨c, by rw [hconsumers, withConsumer_of_ne _ _ hi, hc], hn⟩
  | quit j =>
      show (D.dropHandler j).Runs i n
      rcases dropHandler_cases D j with ⟨-, hD⟩ | ⟨x, -, hconsumers, -⟩
      · rw [hD]
        exact ⟨c, hc, hn⟩
      · have hnotify := Runs.notify ⟨c, hc, hn⟩ x.consumer (.finished x.payload)
        unfold Runs
        rw [hconsumers]
        exact hnotify
  | crash k =>
      have hk : i ≠ k := fun e => ha (e ▸ rfl)
      exact ⟨c, (if_neg hk).trans hc, hn⟩
  | serve j refused =>
      refine ⟨c, ?_, hn⟩
      show (D.serveHandler j refused).consumers i = some c
      rw [consumers_serveHandler, hc]
  | loop k e =>
      show Runs (if isLoopEvent e then D.notify k e else D) i n
      split
      case isTrue => exact Runs.notify ⟨c, hc, hn⟩ k e
      case isFalse => exact ⟨c, hc, hn⟩
  | other q refused => exact ⟨c, (congrFun (D.consumers_other q refused) i).trans hc, hn⟩

theorem Runs.play {n : Nat} {as : List Occurrence} (h : D.Runs i n)
    (has : ∀ a ∈ as, a ≠ .crash i) : (D.play s as).Runs i n := by
  induction as generalizing D with
  | nil => exact h
  | cons a rest ih =>
      obtain ⟨ha, hrest⟩ := List.forall_mem_cons.1 has
      exact ih (h.occur ha) hrest

/-- A consumer that does not run can be started, unless it is to have too many permits. -/
theorem consumers_start {n : Nat} (hidle : D.consumers i = none)
    (hmost : n ≤ Consumer.mostPermits) :
    (D.occur s (.start i n none)).consumers i = some (Consumer.start n) := by
  have hcapacity : (Consumer.start n).capacity ≤ Consumer.mostPermits :=
    Nat.max_le.2 ⟨by decide, hmost⟩
  show (D.startConsumer i n none).consumers i = _
  unfold startConsumer
  rw [hidle]
  dsimp only
  rw [withConsumer_self, decide_eq_true hcapacity]
  rfl

/-- An event of the loop happens to the consumer. -/
theorem consumers_loop {c : Consumer} {e : Consumer.Event} (c' : Consumer)
    (hc : D.consumers i = some c) (he : isLoopEvent e = true) (hafter : c.after e = c') :
    (D.occur s (.loop i e)).consumers i = some c' := by
  unfold Delivery.occur
  dsimp only
  rw [if_pos he, notify_self, hc, ← hafter]
  rfl

/-- A consumer that accepts the first payload that is ready takes it. -/
theorem consumers_take {c : Consumer} {p : String} {rest : List String} (c' : Consumer)
    (hc : D.consumers i = some c) (hready : D.memory.queue.ready = p :: rest)
    (hstep : c.step? (.taken p) = some c') : (D.occur s (.take i)).consumers i = some c' := by
  show (D.takePayload s i).consumers i = _
  unfold takePayload
  rw [hready, hc]
  dsimp only
  rw [hstep]
  exact withConsumer_self D i _

theorem counted_of_memory (m : Memory) : Counted { memory := m } := fun _ => rfl

/-- A consumer that was started and has not crashed counts its handlers, and what was handed out to
it has a handler in flight or one that has ended. -/
theorem counts_of_start {n : Nat} {as : List Occurrence} (h : D.Counted)
    (hidle : D.consumers i = none) (hmost : n ≤ Consumer.mostPermits)
    (has : ∀ a ∈ as, a ≠ .crash i) :
    let D₀ := D.occur s (.start i n none)
    let D₁ := play s as D₀
    ∃ c, D₁.consumers i = some c ∧ c.capacity = max 1 n ∧ Counts (some c) (D₁.carried i) ∧
      (allHandedOut s i as D₀).Perm (allEnded s i as D₀ ++ D₁.carried i) := by
  intro D₀ D₁
  have hruns : D₁.Runs i (max 1 n) := Runs.play ⟨_, consumers_start hidle hmost, rfl⟩ has
  obtain ⟨c, hc, hcapacity⟩ := hruns
  have hcounts : Counts (some c) (D₁.carried i) :=
    hc ▸ (h.occur (.start i n none)).play as i
  have hperm : (allHandedOut s i as D₀ ++ D₀.carried i).Perm
      (allEnded s i as D₀ ++ D₁.carried i) := perm_play has
  have hnone : D₀.carried i = [] :=
    (carried_of_handlers (D.handlers_startConsumer i n none)).trans (h.carried_of_idle hidle)
  rw [hnone, List.append_nil] at hperm
  exact ⟨c, hc, hcapacity, hcounts, hperm⟩

/-- Whatever happened before a consumer was started and whatever happens since, but for its crash:
its free permits, its handlers in flight and the permit that its loop may hold add up to its
permits, so that there are never more handlers, and each payload that was handed out to it has one
handler, which is in flight or has ended. -/
theorem permits_add_up (s : Service) (m : Memory) (before : List Occurrence) (i n : Nat)
    (as : List Occurrence) (hn : 0 < n) (hmost : n ≤ Consumer.mostPermits)
    (hidle : (play s before { memory := m }).consumers i = none)
    (has : ∀ a ∈ as, a ≠ .crash i) :
    let D₀ := (play s before { memory := m }).occur s (.start i n none)
    let D := play s as D₀
    ∃ c, D.consumers i = some c ∧ c.free + (D.carried i).length + c.held = n ∧
      (D.carried i).length ≤ n ∧
      (allHandedOut s i as D₀).Perm (allEnded s i as D₀ ++ D.carried i) := by
  intro D₀ D
  obtain ⟨c, hc, hcapacity, hcounts, hperm⟩ :=
    counts_of_start ((counted_of_memory m).play before) hidle hmost has
  have hpermits : c.free + (D.carried i).length + c.held = n := by
    rw [← hcounts.2.length_eq, hcounts.1.permits, hcapacity, Nat.max_eq_right hn]
  exact ⟨c, hc, hpermits, by omega, hperm⟩

/-- Two payloads are taken, and the handler of the first one panics. -/
def panicked : List Occurrence :=
  [.push "hello", .push "bye", .loop 0 (.looked false), .loop 0 .acquired, .take 0,
    .loop 0 (.looked false), .loop 0 .acquired, .take 0, .quit 0]

/-- The permit of a handler that panics is free again. -/
theorem permits_add_up_panicked :
    let D₀ := (play .standard [] { memory := Memory.fresh Clock.noon }).occur .standard
      (.start 0 2 none)
    let D := play .standard panicked D₀
    D.carried 0 = ["bye"] ∧ ∃ c, D.consumers 0 = some c ∧
      c.free + (D.carried 0).length + c.held = 2 ∧ (D.carried 0).length ≤ 2 ∧
      (allHandedOut .standard 0 panicked D₀).Perm
        (allEnded .standard 0 panicked D₀ ++ D.carried 0) := by
  intro D₀ D
  exact ⟨rfl, permits_add_up .standard (Memory.fresh Clock.noon) [] 0 2 panicked (by decide)
    (by decide) rfl (by simp [panicked])⟩

end Delivery

namespace Settings

/-- A consumer with these settings leaves nothing behind: whatever happened before it was started
and whatever happens since, but for its crash, when its loop has stopped none of its handlers is in
flight, and each payload that was handed out to it has had a handler that has ended. -/
def Drains (x : Settings) : Prop :=
  ∀ (m : Memory) (before : List Occurrence) (i : Nat) (as : List Occurrence),
    let D := Delivery.play x.service before { memory := m }
    D.consumers i = none → (∀ a ∈ as, a ≠ .crash i) →
    let D₀ := D.occur x.service (.start i x.workerConcurrency none)
    let D₁ := Delivery.play x.service as D₀
    ∀ c, D₁.consumers i = some c → c.phase = .stopped →
      D₁.carried i = [] ∧
        (Delivery.allHandedOut x.service i as D₀).Perm (Delivery.allEnded x.service i as D₀)

/-- A consumer is told to stop while its first handler runs, and does not wait. -/
def hasty : List Occurrence :=
  [.push "hello", .loop 0 (.looked false), .loop 0 .acquired, .take 0, .loop 0 (.looked true),
    .loop 0 .drained]

/-- If its permits are no word of 32 bits, such a consumer stops and leaves its handler behind. -/
theorem stopped_hasty (s : Service) {n : Nat} (hword : 2 ^ 32 ≤ n)
    (hmost : n ≤ Consumer.mostPermits) :
    let D := Delivery.play s hasty
      (Delivery.occur s { memory := Memory.fresh Clock.noon } (.start 0 n none))
    D.consumers 0 = some ⟨n, n - 1, ["hello"], .stopped⟩ ∧ D.carried 0 = ["hello"] := by
  intro D
  have hpos : 0 < n := by omega
  -- the loop waits for the remainder of its permits only, and all but one are free
  have hawaited : n % 4294967296 ≤ n - 1 := by omega
  have hstart : (Delivery.occur s { memory := Memory.fresh Clock.noon }
      (.start 0 n none)).consumers 0 = some ⟨n, n, [], .checking⟩ := by
    rw [Delivery.consumers_start rfl hmost, Consumer.start, Nat.max_eq_right hpos]
  have hpushed : ((Delivery.occur s { memory := Memory.fresh Clock.noon }
      (.start 0 n none)).occur s (.push "hello")).consumers 0 = some ⟨n, n, [], .checking⟩ := hstart
  have hlooked := Delivery.consumers_loop (s := s) (e := .looked false) ⟨n, n, [], .acquiring⟩
    hpushed rfl rfl
  have hacquired := Delivery.consumers_loop (s := s) ⟨n, n - 1, [], .waiting⟩ hlooked rfl
    (Consumer.after_acquired rfl hpos)
  -- the payload that was pushed first is still ready
  have hready : (Delivery.play s (hasty.take 3) (Delivery.occur s
      { memory := Memory.fresh Clock.noon } (.start 0 n none))).memory.queue.ready = ["hello"] := rfl
  have htaken := Delivery.consumers_take (s := s) ⟨n, n - 1, ["hello"], .checking⟩ hacquired
    hready rfl
  have htold := Delivery.consumers_loop (s := s) (e := .looked true)
    ⟨n, n - 1, ["hello"], .draining⟩ htaken rfl rfl
  have hdrained : D.consumers 0 = some ⟨n, n - 1, ["hello"], .stopped⟩ :=
    Delivery.consumers_loop (s := s) _ htold rfl (Consumer.after_drained rfl hawaited)
  have hcounted : D.Counted :=
    ((Delivery.counted_of_memory (Memory.fresh Clock.noon)).occur (.start 0 n none)).play hasty
  have hcounts := hcounted 0
  rw [hdrained] at hcounts
  exact ⟨hdrained, List.perm_singleton.1 hcounts.2.symm⟩

/-- With too many permits a handler can be left behind. -/
theorem not_drains {x : Settings} (hword : 2 ^ 32 ≤ x.workerConcurrency)
    (hmost : x.workerConcurrency ≤ Consumer.mostPermits) : ¬ x.Drains := by
  intro h
  obtain ⟨hc, hhello⟩ := stopped_hasty x.service hword hmost
  obtain ⟨hcarried, -⟩ := h (Memory.fresh Clock.noon) [] 0 hasty rfl (by simp [hasty]) _ hc rfl
  exact List.cons_ne_nil _ _ (hhello.symm.trans hcarried)

/-- A consumer leaves nothing behind exactly if the number of its permits is a word of 32 bits. -/
theorem drains_iff (x : Settings) (hmost : x.workerConcurrency ≤ Consumer.mostPermits) :
    x.Drains ↔ x.workerConcurrency < 2 ^ 32 := by
  constructor
  · intro h
    by_contra hword
    exact not_drains (Nat.not_lt.1 hword) hmost h
  · intro hword m before i as D hidle has D₀ D₁ c hc hphase
    obtain ⟨c', hc', hcapacity, hcounts, hperm⟩ := Delivery.counts_of_start
      ((Delivery.counted_of_memory m).play before) hidle hmost has
    obtain rfl : c = c' := Option.some.inj (hc.symm.trans hc')
    -- the loop waits for all permits, so all of them are back
    have hnone : c.inFlight = [] := by
      refine hcounts.1.inFlight_eq_nil ?_ hphase
      rw [hcapacity]
      exact Nat.max_lt.2 ⟨by decide, hword⟩
    have hcarried : D₁.carried i = [] := (hnone ▸ hcounts.2).nil_eq.symm
    refine ⟨hcarried, ?_⟩
    rwa [show Delivery.carried _ i = [] from hcarried, List.append_nil] at hperm

/-- The standard settings leave nothing behind. -/
theorem standard_drains :
    ({} : Settings).workerConcurrency ≤ Consumer.mostPermits ∧ ({} : Settings).Drains := by
  have hmost : ({} : Settings).workerConcurrency ≤ Consumer.mostPermits := by decide
  exact ⟨hmost, (drains_iff {} hmost).2 (by decide)⟩

/-- Not all settings that make sense leave nothing behind: a consumer may have `2 ^ 32` permits. -/
theorem valid_not_drains :
    ¬ ∀ x : Settings, x.fault? = none → x.workerConcurrency ≤ Consumer.mostPermits →
      x.Drains := by
  intro h
  have hdrains := h { workerConcurrency := 4294967296 } (by decide) (by decide)
  exact not_drains (by decide) (by decide) hdrains

end Settings

end Presence
