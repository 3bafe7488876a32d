import Presence.Consumer
import Presence.Payload
import Presence.Proofs.Interleaving
import Presence.Proofs.UserCalls

/-!
# No payload is lost

Producers push payloads to one queue, from which any number of consumers take them. Each payload is
handled by a program of its own, `Service.handle`, side by side with all others. A confirmation may
be refused, a handler may fail or stop anywhere, and a consumer may crash with all its handlers and
start again. Equal payloads cannot be told apart, and a start gives back what the handlers of
another consumer still hold, so a confirmation may take a payload that somebody else has taken.
Main statement: `Delivery.pushed_le`, a payload has been pushed at most as often as it is in the
queue and has been processed together.
-/

set_option autoImplicit false

namespace Presence

open Operation Program

/-- A call on the queue. -/
def Call.isQueue : Call → Bool
  | .queue _ => true
  | _ => false

/-- A handler at work: its consumer, its payload and what is left of its program. -/
structure Handler where
  consumer : Nat
  payload : String
  rest : Operation PayloadStatus

/-- The payload was processed, and the handler is about to confirm it. -/
def Handler.isConfirming (h : Handler) : Bool :=
  match h.rest with
  | .call (.queue (.ack _)) _ => true
  | _ => false

/-- Consumers at work on one queue, with an account of what was pushed and what was processed. -/
structure Delivery where
  memory : Memory
  consumers : Nat → Option Consumer := fun _ => none
  handlers : List Handler := []
  /-- The payloads that were pushed, the first one first. -/
  pushed : List String := []
  /-- The payloads whose processing has come to its end, however it ended. -/
  processed : List String := []

/-- What can happen next in a delivery. -/
inductive Occurrence where
  /-- A text is pushed. -/
  | push (payload : String)
  /-- An event is pushed, which the queue may refuse. -/
  | enqueue (e : ActivityEvent) (refused : Option Failure)
  /-- A consumer starts, unless it runs: it gives back what was taken and not confirmed. -/
  | start (i concurrency : Nat) (refused : Option Failure)
  /-- Something happens to the loop of a consumer, but for its payloads and its handlers. -/
  | loop (i : Nat) (e : Consumer.Event)
  /-- A consumer that waits for a payload takes one, for which a handler starts. -/
  | take (i : Nat)
  /-- A handler makes its next call, which the backend may refuse. -/
  | serve (j : Nat) (refused : Option Failure)
  /-- A handler goes, because it has ended or because it panics. -/
  | quit (j : Nat)
  /-- A consumer crashes, with all its handlers. -/
  | crash (i : Nat)
  /-- Somebody else makes a call that is not on the queue. -/
  | other (c : Call) (refused : Option Failure)
  | clock (t : Instant)

namespace Delivery

/-- Lets an event happen to a consumer that runs. -/
def notify (D : Delivery) (i : Nat) (e : Consumer.Event) : Delivery :=
  { D with
    consumers := fun k => if k = i then (D.consumers k).map (·.after e) else D.consumers k }

/-- Replaces a consumer. -/
def withConsumer (D : Delivery) (i : Nat) (c : Option Consumer) : Delivery :=
  { D with consumers := fun k => if k = i then c else D.consumers k }

/-- An event of the loop that has to do neither with a payload nor with a handler. -/
def isLoopEvent : Consumer.Event → Bool
  | .taken _ | .finished _ => false
  | _ => true

/-- Starts a consumer, unless it runs. If the queue refuses, or there are to be too many permits, it
does not run. -/
def startConsumer (D : Delivery) (i concurrency : Nat) (refused : Option Failure) : Delivery :=
  match D.consumers i with
  | some _ => D
  | none =>
    let x : Exchange := ⟨.queue .requeue, D.memory, refused⟩
    let c := Consumer.start concurrency
    let runs := x.reply.isOk && decide (c.capacity ≤ Consumer.mostPermits)
    { D.withConsumer i (if runs then some c else none) with memory := x.after }

/-- Lets a consumer that waits take a payload that is ready, and starts a handler for it. -/
def takePayload (s : Service) (D : Delivery) (i : Nat) : Delivery :=
  match D.memory.queue.ready, D.consumers i with
  | p :: _, some c =>
    match c.step? (.taken p) with
    | some c =>
      { D.withConsumer i (some c) with
        memory := { D.memory with queue := D.memory.queue.pop.2 }
        handlers := D.handlers ++ [⟨i, p, s.handle p⟩] }
    | none => D
  | _, _ => D

/-- Lets a handler make its next call. -/
def serveHandler (D : Delivery) (j : Nat) (refused : Option Failure) : Delivery :=
  match D.handlers[j]? with
  | some ⟨i, p, .call c next⟩ =>
    let x : Exchange := ⟨c, D.memory, refused⟩
    let h : Handler := ⟨i, p, next x.reply⟩
    { D with
      memory := x.after
      handlers := D.handlers.set j h
      processed := if h.isConfirming then D.processed ++ [p] else D.processed }
  | _ => D

/-- Lets a handler go, wherever it stands. -/
def dropHandler (D : Delivery) (j : Nat) : Delivery :=
  match D.handlers[j]? with
  | some h => { D.notify h.consumer (.finished h.payload) with handlers := D.handlers.eraseIdx j }
  | none => D

/-- Lets one thing happen. -/
def occur (s : Service) (D : Delivery) : Occurrence → Delivery
  | .push p =>
    { D with
      memory := { D.memory with queue := D.memory.queue.submit p }
      pushed := D.pushed ++ [p] }
  | .enqueue e refused =>
    let x : Exchange := ⟨.queue (.enqueue e), D.memory, refused⟩
    { D with
      memory := x.after
      pushed := if x.reply.isOk then D.pushed ++ [e.encode] else D.pushed }
  | .start i concurrency refused => D.startConsumer i concurrency refused
  | .loop i e => if isLoopEvent e then D.notify i e else D
  | .take i => D.takePayload s i
  | .serve j refused => D.serveHandler j refused
  | .quit j => D.dropHandler j
  | .crash i =>
    { D.withConsumer i none with handlers := D.handlers.filter fun h => h.consumer ≠ i }
  | .other c refused =>
    if c.isQueue then D
    else { D with memory := (⟨c, D.memory, refused⟩ : Exchange).after }
  | .clock t => { D with memory := D.memory.clockAt t }

/-- Lets things happen one after another. -/
def play (s : Service) : List Occurrence → Delivery → Delivery
  | [], D => D
  | a :: rest, D => play s rest (D.occur s a)

end Delivery

/-! ## What a handler does to the queue -/

namespace Service

variable (s : Service) {user : String}

variable {s} in
theorem OwnCall.isQueue {c : Call} (h : s.OwnCall user c) : c.isQueue = false := by
  cases h with
  | any h => cases h <;> rfl
  | mark h => cases h; rfl
  | move h => cases h <;> rfl

theorem only_record (e : ActivityEvent) : (s.record e).Only fun c => c.isQueue = false := by
  unfold record
  split
  · exact True.intro
  · cases e.kind with
    | heartbeat => exact (only_onHeartbeat e.user).mono fun _ h => (OwnCall.any h).isQueue
    | activity =>
        exact (only_onActivity e.user).mono fun _ h => (h.elim OwnCall.any OwnCall.mark).isQueue

/-- Processing a payload makes no call on the queue. -/
theorem only_process (payload : String) :
    (s.process payload).Only fun c => c.isQueue = false := by
  unfold process
  cases ActivityEvent.decode? payload with
  | none => exact Only.bind (only_ask rfl) fun _ => only_pure _
  | some e =>
      refine Only.bind (Only.attempt (s.only_record e)) fun r => ?_
      cases r with
      | ok a => exact Only.bind (only_ask rfl) fun _ => only_pure _
      | error f => exact Only.bind (only_ask rfl) fun _ => only_pure _

/-- Processing a payload begins with a call. -/
theorem process_eq_call (payload : String) :
    ∃ (c : Call) (next : Outcome c.Reply → Operation PayloadStatus),
      c.isQueue = false ∧ s.process payload = .call c next := by
  unfold process
  cases ActivityEvent.decode? payload with
  | none => exact ⟨_, _, rfl, rfl⟩
  | some e =>
      unfold record
      dsimp only
      split
      · exact ⟨_, _, rfl, rfl⟩
      · cases e.kind with
        | heartbeat => exact ⟨_, _, rfl, rfl⟩
        | activity => exact ⟨_, _, rfl, rfl⟩

end Service

namespace Handler

/-- What is left to do once the payload was processed. -/
def confirm (payload : String) (status : PayloadStatus) : Operation PayloadStatus := do
  let _ ← (ack payload).attempt
  pure status

/-- Where a handler can stand: it processes its payload, without a call on the queue; it is about to
confirm its payload; or it has ended. -/
inductive Conducts (h : Handler) : Prop
  | processing (r : Operation PayloadStatus) (hr : r.Only fun c => c.isQueue = false)
      (hne : ∀ status, r ≠ .done (.ok status)) (hrest : h.rest = r >>= confirm h.payload)
  | confirming (status : PayloadStatus) (hrest : h.rest = confirm h.payload status)
  | ended (o : Outcome PayloadStatus) (hrest : h.rest = .done o)

theorem conducts_of_only {h : Handler} {r : Operation PayloadStatus}
    (hr : r.Only fun c => c.isQueue = false) (hrest : h.rest = r >>= confirm h.payload) :
    h.Conducts := by
  cases r with
  | call c next => exact .processing _ hr (fun _ e => nomatch e) hrest
  | done o =>
      cases o with
      | ok status => exact .confirming status hrest
      | failed e => exact .ended _ hrest
      | crashed c => exact .ended _ hrest

/-- A handler that has just started processes its payload. -/
theorem conducts_handle (s : Service) (i : Nat) (payload : String) :
    Conducts ⟨i, payload, s.handle payload⟩ :=
  conducts_of_only (s.only_process payload) rfl

/-- A handler that has just started has not processed its payload yet. -/
theorem isConfirming_handle (s : Service) (i : Nat) (payload : String) :
    isConfirming ⟨i, payload, s.handle payload⟩ = false := by
  obtain ⟨c, next, hq, hp⟩ := s.process_eq_call payload
  have hh : s.handle payload = (s.process payload >>= confirm payload) := rfl
  rw [hh, hp]
  cases c with
  | queue c => cases hq
  | _ => rfl

/-- The handler is about to confirm a text. -/
def isDue (payload : String) (h : Handler) : Bool := h.isConfirming && h.payload = payload

/-- The account of a handler that may be about to confirm its payload. -/
theorem count_noted (p : String) (l : List String) (h : Handler) :
    (if h.isConfirming then l ++ [h.payload] else l).count p =
      l.count p + if h.isDue p then 1 else 0 := by
  unfold isDue
  cases h.isConfirming with
  | false => rfl
  | true =>
      rw [if_pos rfl, List.count_append, List.count_singleton, Bool.true_and]
      rfl

variable {h : Handler} {c : Call} {next : Outcome c.Reply → Operation PayloadStatus}

/-- The next call of a handler is no call on the queue, or it confirms the payload. -/
theorem Conducts.cases_call (hc : h.Conducts) (hr : h.rest = .call c next) :
    (c.isQueue = false ∧ ∃ next' : Outcome c.Reply → Operation PayloadStatus,
        ∀ r, (next' r).Only (fun c => c.isQueue = false) ∧
          next r = next' r >>= confirm h.payload) ∨
      (h.isConfirming = true ∧ c = .queue (.ack h.payload) ∧ ∀ r, ∃ o, next r = .done o) := by
  cases hc with
  | ended o hrest => cases hr.symm.trans hrest
  | confirming status hrest =>
      have hconf : h.isConfirming = true := by
        unfold isConfirming
        rw [hrest]
        rfl
      cases hr.symm.trans hrest
      refine .inr ⟨hconf, rfl, fun r => ?_⟩
      cases r with
      | ok u => exact ⟨_, rfl⟩
      | failed e => exact ⟨_, rfl⟩
      | crashed b => exact ⟨_, rfl⟩
  | processing p hp hne hrest =>
      cases p with
      | call c' next' =>
          cases hr.symm.trans hrest
          exact .inl ⟨hp.1, next', fun r => ⟨hp.2 r, rfl⟩⟩
      | done o =>
          cases o with
          | ok status => exact absurd rfl (hne status)
          | failed e => cases hr.symm.trans hrest
          | crashed b => cases hr.symm.trans hrest

/-- After a call a handler stands where a handler can stand. -/
theorem Conducts.goOn (hc : h.Conducts) (hr : h.rest = .call c next) (r : Outcome c.Reply) :
    Conducts { h with rest := next r } := by
  rcases hc.cases_call hr with ⟨-, next', hn⟩ | ⟨-, -, hn⟩
  · exact conducts_of_only (hn r).1 (hn r).2
  · obtain ⟨o, ho⟩ := hn r
    exact .ended o ho

theorem content_after_of_not_queue (h : c.isQueue = false) (m : Memory)
    (refused : Option Failure) :
    (⟨c, m, refused⟩ : Exchange).after.queue = m.queue := by
  refine Exchange.holds_after (I := fun m' => m'.queue = m.queue) rfl ?_ refused
  cases c with
  | queue c => cases h
  | _ => rfl

/-- A confirmation takes one payload out of the queue at most, and none that differs from its
text. -/
theorem count_content_le_ack (payload : String) (m : Memory) (refused : Option Failure)
    (p : String) :
    m.queue.content.count p ≤
      (⟨.queue (.ack payload), m, refused⟩ : Exchange).after.queue.content.count p +
        if payload = p then 1 else 0 := by
  rcases Exchange.cases_refusal (.queue (.ack payload)) m refused with ⟨e, -, ha⟩ | ⟨-, ha⟩
  · rw [ha]
    exact Nat.le_add_right _ _
  · rw [ha]
    show (m.queue.processing ++ m.queue.ready).count p ≤
      (m.queue.processing.erase payload ++ m.queue.ready).count p + _
    rw [List.count_append, List.count_append]
    by_cases hp : payload = p
    · subst hp
      rw [List.count_erase_self, if_pos rfl]
      omega
    · rw [List.count_erase_of_ne fun e => hp e.symm, if_neg hp]
      omega

/-- A call of a handler takes a payload out of the queue only if the handler is about to confirm
it. -/
theorem Conducts.count_content_le (hc : h.Conducts) (hr : h.rest = .call c next) (m : Memory)
    (refused : Option Failure) (p : String) :
    m.queue.content.count p ≤ (⟨c, m, refused⟩ : Exchange).after.queue.content.count p +
      if h.isDue p then 1 else 0 := by
  rcases hc.cases_call hr with ⟨hq, -⟩ | ⟨hconf, rfl, -⟩
  · rw [content_after_of_not_queue hq]
    exact Nat.le_add_right _ _
  · have := count_content_le_ack h.payload m refused p
    unfold isDue
    rw [hconf]
    simpa using this

end Handler

/-! ## The account -/

namespace Delivery

variable {s : Service} {D : Delivery} {old : List String}

/-- Every handler stands where a handler can stand, and what was in the queue or pushed, with the
payloads that are about to be confirmed, is still in the queue or was processed. -/
structure Covered (old : List String) (D : Delivery) : Prop where
  conducts : ∀ h ∈ D.handlers, h.Conducts
  count_le : ∀ p, (old ++ D.pushed).count p + D.handlers.countP (Handler.isDue p) ≤
    D.memory.queue.content.count p + D.processed.count p

/-- Handlers can go at any time. -/
theorem Covered.of_sublist (h : Covered old D) {D' : Delivery}
    (hm : D'.memory.queue.content = D.memory.queue.content) (hh : D'.handlers.Sublist D.handlers)
    (hp : D'.pushed = D.pushed) (hd : D'.processed = D.processed) : Covered old D' := by
  refine ⟨fun x hx => h.conducts x (hh.subset hx), fun p => ?_⟩
  have hle := h.count_le p
  have hs : D'.handlers.countP (Handler.isDue p) ≤ D.handlers.countP (Handler.isDue p) :=
    hh.countP_le
  rw [hm, hp, hd]
  omega

/-- What is pushed is in the queue. -/
theorem Covered.pushing (h : Covered old D) {payload : String} {D' : Delivery}
    (hm : D'.memory.queue.content = D.memory.queue.content ++ [payload])
    (hh : D'.handlers = D.handlers) (hp : D'.pushed = D.pushed ++ [payload])
    (hd : D'.processed = D.processed) : Covered old D' := by
  refine ⟨fun x hx => h.conducts x (hh ▸ hx), fun p => ?_⟩
  have hle := h.count_le p
  have h1 : (old ++ D.pushed ++ [payload]).count p =
      (old ++ D.pushed).count p + [payload].count p := List.count_append
  have h2 : (D.memory.queue.content ++ [payload]).count p =
      D.memory.queue.content.count p + [payload].count p := List.count_append
  rw [hm, hh, hp, hd, ← List.append_assoc]
  omega

/-- The queue answers, or it refuses and nothing has changed. -/
theorem queue_cases (c : QueueCall) (m : Memory) (refused : Option Failure) :
    (⟨.queue c, m, refused⟩ : Exchange).reply.isOk = false ∧
        (⟨.queue c, m, refused⟩ : Exchange).after.queue = m.queue ∨
      (⟨.queue c, m, refused⟩ : Exchange).reply = (Queue.serve c m.queue).1 ∧
        (⟨.queue c, m, refused⟩ : Exchange).after.queue = (Queue.serve c m.queue).2 := by
  rcases Exchange.cases_refusal (.queue c) m refused with ⟨e, hr, ha⟩ | ⟨hr, ha⟩
  · refine .inl ⟨?_, ?_⟩
    · rw [hr]
      rfl
    · rw [ha]
  · refine .inr ⟨hr, ?_⟩
    rw [ha]
    rfl

theorem covered_enqueue (h : Covered old D) (e : ActivityEvent) (refused : Option Failure) :
    Covered old (D.occur s (.enqueue e refused)) := by
  rcases queue_cases (.enqueue e) D.memory refused with ⟨hr, ha⟩ | ⟨hr, ha⟩
  · -- the queue has refused the event, and nothing was pushed
    refine h.of_sublist ?_ (.refl _) ?_ rfl
    · exact congrArg Queue.content ha
    · exact if_neg (by rw [hr]; exact Bool.false_ne_true)
  · have hp : (D.occur s (.enqueue e refused)).pushed = D.pushed ++ [e.encode] :=
      if_pos (by rw [hr]; rfl)
    exact h.pushing ((congrArg Queue.content ha).trans (D.memory.queue.content_push e.encode)) rfl
      hp rfl

/-- A start gives back what was taken, and nothing is gained or lost. -/
theorem covered_startConsumer (h : Covered old D) (i concurrency : Nat)
    (refused : Option Failure) : Covered old (D.startConsumer i concurrency refused) := by
  have hc : (⟨.queue .requeue, D.memory, refused⟩ : Exchange).after.queue.content =
      D.memory.queue.content := by
    rcases queue_cases .requeue D.memory refused with ⟨-, ha⟩ | ⟨-, ha⟩
    · rw [ha]
    · rw [ha]
      exact D.memory.queue.content_requeue
  unfold startConsumer
  split
  · exact h
  · exact h.of_sublist hc (.refl _) rfl rfl

/-- What is taken stays in the queue, and its handler has yet to process it. -/
theorem covered_takePayload (h : Covered old D) (i : Nat) :
    Covered old (D.takePayload s i) := by
  unfold takePayload
  split
  · rename_i p _ c _ _
    split
    · refine ⟨fun x hx => ?_, fun p' => ?_⟩
      · rcases List.mem_append.1 hx with hx | hx
        · exact h.conducts x hx
        · rw [List.mem_singleton.1 hx]
          exact Handler.conducts_handle s i p
      · have hnew : Handler.isDue p' ⟨i, p, s.handle p⟩ = false := by
          unfold Handler.isDue
          rw [Handler.isConfirming_handle]
          rfl
        show (old ++ D.pushed).count p' +
            (D.handlers ++ [(⟨i, p, s.handle p⟩ : Handler)]).countP (Handler.isDue p') ≤
          D.memory.queue.pop.2.content.count p' + D.processed.count p'
        rw [Queue.content_pop, List.countP_append, List.countP_singleton, hnew]
        exact h.count_le p'
    · exact h
  · exact h

/-- What the next call of a handler takes out of the queue was processed before. -/
theorem covered_serveHandler (h : Covered old D) (j : Nat) (refused : Option Failure) :
    Covered old (D.serveHandler j refused) := by
  unfold serveHandler
  split
  · rename_i i p c next hj
    obtain ⟨hlt, hget⟩ := List.getElem?_eq_some_iff.1 hj
    have hc := h.conducts _ (List.mem_of_getElem? hj)
    refine ⟨fun x hx => ?_, fun p' => ?_⟩
    · rcases List.mem_or_eq_of_mem_set hx with hx | rfl
      · exact h.conducts x hx
      · exact hc.goOn rfl _
    · have hle := h.count_le p'
      have hqueue := hc.count_content_le rfl D.memory refused p'
      have hold := List.boole_getElem_le_countP (p := Handler.isDue p') hlt
      have hnoted := Handler.count_noted p' D.processed
        ⟨i, p, next (⟨c, D.memory, refused⟩ : Exchange).reply⟩
      dsimp only at hnoted ⊢
      rw [List.countP_set hlt, hnoted]
      rw [hget] at hold ⊢
      omega
  · exact h

theorem Covered.occur (h : Covered old D) (a : Occurrence) : Covered old (D.occur s a) := by
  cases a with
  | push p => exact h.pushing (D.memory.queue.content_push p) rfl rfl rfl
  | enqueue e refused => exact covered_enqueue h e refused
  | start i concurrency refused => exact covered_startConsumer h i concurrency refused
  | take i => exact covered_takePayload h i
  | serve j refused => exact covered_serveHandler h j refused
  | clock t => exact h.of_sublist rfl (.refl _) rfl rfl
  | crash i => exact h.of_sublist rfl List.filter_sublist rfl rfl
  | loop i e =>
      unfold Delivery.occur
      dsimp only
      split
      · exact h.of_sublist rfl (.refl _) rfl rfl
      · exact h
  | quit j =>
      show Covered old (D.dropHandler j)
      unfold dropHandler
      split
      · exact h.of_sublist rfl (List.eraseIdx_sublist _ _) rfl rfl
      · exact h
  | other c refused =>
      unfold Delivery.occur
      dsimp only
      split
      · exact h
      · rename_i hq
        have ha := Handler.content_after_of_not_queue (Bool.not_eq_true _ ▸ hq) D.memory refused
        exact h.of_sublist (congrArg Queue.content ha) (.refl _) rfl rfl

theorem Covered.play (h : Covered old D) (as : List Occurrence) : Covered old (D.play s as) := by
  -- the induction is on what happens; the account is kept by everything that can
  induction as generalizing D with
  | nil => exact h
  | cons a rest ih => exact ih (h.occur a)

/-- However producers, consumers and handlers follow each other, whatever is refused, whatever stops
and whoever crashes: as often as a text was in the queue and was pushed since, it is ready, or being
processed, or was processed to the end. -/
theorem pushed_le (s : Service) (m : Memory) (as : List Occurrence) (payload : String) :
    let D := Delivery.play s as { memory := m }
    m.queue.content.count payload + D.pushed.count payload ≤
      D.memory.queue.ready.count payload + D.memory.queue.processing.count payload +
        D.processed.count payload := by
  intro D
  have h : Covered m.queue.content { memory := m } :=
    ⟨fun x hx => (nomatch hx), fun p => by simp⟩
  have hD : Covered m.queue.content D := h.play as
  have hle := hD.count_le payload
  have hcontent : D.memory.queue.content.count payload =
      D.memory.queue.processing.count payload + D.memory.queue.ready.count payload :=
    List.count_append
  have hall : (m.queue.content ++ D.pushed).count payload =
      m.queue.content.count payload + D.pushed.count payload := List.count_append
  omega

end Delivery

end Presence
