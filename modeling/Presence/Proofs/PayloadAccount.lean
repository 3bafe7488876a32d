import Presence.Proofs.Counting
import Presence.Proofs.EventWire
import Presence.Proofs.KnownRange
import Presence.Proofs.Refusals

/-!
# Every payload is counted once

A payload is processed, then counted under its status and its kind, and then confirmed, whichever
calls are refused; the status of an event is the outcome of its effect. Main statements:
`Service.handled`, what one payload does to the counters of events and to the queue, and
`Service.payloads_accounted`, which adds it up over payloads that are handled one after another.
-/

set_option autoImplicit false

namespace Presence

open Operation Program

/-- The outcome is a crash. -/
def Outcome.isCrash {α : Type} : Outcome α → Bool
  | .crashed _ => true
  | _ => false

/-- A counter of events. -/
def Counter.isEvent : Counter → Bool
  | .eventsProcessed _ | .eventsFailed _ => true
  | _ => false

/-- A call that neither belongs to the queue nor counts an event. -/
structure Call.IsInner (c : Call) : Prop where
  isQueue : c.isQueue = false
  isEvent : ∀ k n, c = .count k n → k.isEvent = false

namespace Service

theorem admits_isInner (s : Service) (user : String) (t : Instant) :
    s.Admits user t Call.IsInner where
  store _ := ⟨rfl, fun _ _ e => nomatch e⟩
  profile := ⟨rfl, fun _ _ e => nomatch e⟩
  spend _ := ⟨rfl, fun _ _ e => nomatch e⟩
  flushed := ⟨rfl, fun k n e => by cases e; rfl⟩
  seconds _ := ⟨rfl, fun k n e => by cases e; rfl⟩

/-- The effect of an event makes no call on the queue and counts no event. -/
theorem only_record_isInner (s : Service) (e : ActivityEvent) : (s.record e).Only Call.IsInner := by
  have hnow : Call.IsInner .now := ⟨rfl, fun _ _ e => nomatch e⟩
  unfold record
  split
  · exact True.intro
  · cases e.kind with
    | activity => exact Admits.onActivity (s.admits_isInner e.user) hnow
    | heartbeat => exact Admits.onHeartbeat (s.admits_isInner e.user) hnow

end Service

/-! ## Parts of a run -/

namespace Trail

variable {T T' T'' : Trail} {f f' : Refusals} {α : Type}

/-- From one trail to another there was no call on the queue, and no event was counted. -/
structure Inner (T T' : Trail) : Prop where
  calls : ∃ xs, T'.calls = xs ++ T.calls ∧ ∀ x ∈ xs, x.call.isQueue = false
  events : ∀ k : Counter, k.isEvent = true →
    T'.memory.metrics.value k = T.memory.metrics.value k

theorem Inner.refl (T : Trail) : Inner T T := ⟨⟨[], rfl, fun _ h => nomatch h⟩, fun _ _ => rfl⟩

theorem Inner.trans (h : Inner T T') (h' : Inner T' T'') : Inner T T'' := by
  obtain ⟨xs, hxs, hq⟩ := h.calls
  obtain ⟨ys, hys, hq'⟩ := h'.calls
  refine ⟨⟨ys ++ xs, by rw [hys, hxs, List.append_assoc], fun x hx => ?_⟩,
    fun k hk => (h'.events k hk).trans (h.events k hk)⟩
  exact (List.mem_append.1 hx).elim (hq' x) (hq x)

/-- Only a count changes the counters. -/
theorem metrics_after_of_ne {c : Call} (hc : ∀ k n, c ≠ .count k n) (m : Memory)
    (refused : Option Failure) : (⟨c, m, refused⟩ : Exchange).after.metrics = m.metrics := by
  refine Exchange.holds_after (I := fun m' => m'.metrics = m.metrics) rfl ?_ refused
  cases c with
  | count k n => exact absurd rfl (hc k n)
  | _ => rfl

theorem inner_extend {c : Call} (hc : c.IsInner) (refused : Option Failure) :
    Inner T (T.extend ⟨c, T.memory, refused⟩) := by
  refine ⟨⟨[_], rfl, fun x hx => ?_⟩, fun k hk => ?_⟩
  · rw [List.mem_singleton.1 hx]
    exact hc.isQueue
  · by_cases hcount : ∃ l n, c = .count l n
    · obtain ⟨l, n, rfl⟩ := hcount
      refine Metrics.value_add_of_ne _ (fun he => ?_) n
      rw [he, hc.isEvent l n rfl] at hk
      cases hk
    · have hmetrics := metrics_after_of_ne (fun l n e => hcount ⟨l, n, e⟩) T.memory refused
      exact congrArg (fun ms => ms.value k) hmetrics

theorem inner_run {p : Operation α} (hp : p.Only Call.IsInner) (f : Refusals) (T : Trail) :
    Inner T (T.run f p).2 := by
  induction p generalizing T with
  | done o => exact .refl T
  | call c next ih => exact (inner_extend hp.1 _).trans (ih _ (hp.2 _) _)

/-- Only what is refused of the calls of a program matters to it. -/
theorem run_congr {P : Call → Prop} (hf : ∀ n c, P c → f n c = f' n c) {p : Operation α}
    (hp : p.Only P) (T : Trail) : T.run f p = T.run f' p := by
  induction p generalizing T with
  | done o => rfl
  | call c next ih =>
      have hserve : serve f c T = serve f' c T := by
        unfold serve
        rw [hf _ c hp.1]
      show run f (next (serve f c T).1) (serve f c T).2 =
        run f' (next (serve f' c T).1) (serve f' c T).2
      rw [hserve]
      exact ih _ (hp.2 _) _

/-- The trail after one event was counted; a count is never refused. -/
def counted (f : Refusals) (T : Trail) (k : Counter) : Trail :=
  T.extend ⟨.count k 1, T.memory, f T.calls.length (.count k 1)⟩

/-- The trail after a payload was confirmed, or not. -/
def confirmed (f : Refusals) (T : Trail) (payload : String) : Trail :=
  T.extend ⟨.queue (.ack payload), T.memory, f T.calls.length (.queue (.ack payload))⟩

theorem metrics_counted (f : Refusals) (T : Trail) (k : Counter) :
    (T.counted f k).memory.metrics = T.memory.metrics.add k 1 := rfl

/-- A confirmation changes nothing but the queue. -/
theorem exists_memory_confirmed (f : Refusals) (T : Trail) (payload : String) :
    ∃ q, (T.confirmed f payload).memory = { T.memory with queue := q } :=
  Exchange.holds_after (I := fun m => ∃ q, m = { T.memory with queue := q })
    ⟨T.memory.queue, rfl⟩ ⟨_, rfl⟩ _

theorem metrics_confirmed (f : Refusals) (T : Trail) (payload : String) :
    (T.confirmed f payload).memory.metrics = T.memory.metrics := by
  obtain ⟨q, hq⟩ := exists_memory_confirmed f T payload
  rw [hq]

end Trail

/-! ## One payload -/

/-- What a payload is counted as, by the name of its kind. -/
def PayloadStatus.counter (kind : String) : PayloadStatus → Counter
  | .processed => .eventsProcessed kind
  | .failed => .eventsFailed kind
  | .malformed => .eventsFailed "malformed"

theorem PayloadStatus.isEvent_counter (status : PayloadStatus) (kind : String) :
    (status.counter kind).isEvent = true := by
  cases status <;> rfl

/-- The name of the kind of the event that a payload holds. -/
def ActivityEvent.kindOf (payload : String) : String :=
  (decode? payload).elim "malformed" fun e => e.kind.name

namespace Service

variable {s : Service} {f : Refusals} {T : Trail} {payload : String}

theorem run_process_of_none (h : ActivityEvent.decode? payload = none) :
    T.run f (s.process payload) = (.ok .malformed, T.counted f (.eventsFailed "malformed")) := by
  unfold process
  rw [h]
  rfl

theorem run_process_of_some {e : ActivityEvent} (h : ActivityEvent.decode? payload = some e)
    {o : Outcome Accrual} {T' : Trail} (hr : T.run f (s.record e) = (o, T')) :
    T.run f (s.process payload) =
      match o with
      | .ok _ => (.ok .processed, T'.counted f (.eventsProcessed e.kind.name))
      | .failed _ => (.ok .failed, T'.counted f (.eventsFailed e.kind.name))
      | .crashed c => (.crashed c, T') := by
  unfold process
  rw [h]
  show Program.run (Trail.serve f) ((s.record e).attempt >>= _) T = _
  rw [run_bind, attempt, run_settle]
  rw [show Program.run (Trail.serve f) (s.record e) T = (o, T') from hr]
  cases o <;> rfl

/-- A payload is confirmed after it was processed, and a failure to do so is ignored. -/
theorem run_handle {o : Outcome PayloadStatus} {T' : Trail}
    (h : T.run f (s.process payload) = (o, T')) :
    T.run f (s.handle payload) =
      match o with
      | .ok status => (.ok status, T'.confirmed f payload)
      | .failed e => (.failed e, T')
      | .crashed c => (.crashed c, T') := by
  show Program.run (Trail.serve f) (s.process payload >>= Handler.confirm payload) T = _
  rw [run_bind, show Program.run (Trail.serve f) (s.process payload) T = (o, T') from h]
  cases o with
  | ok status =>
      show Program.run (Trail.serve f) ((ack payload).attempt >>= _) T' = _
      rw [run_bind, attempt, run_settle]
      have hserve : Program.run (Trail.serve f) (ack payload) T' =
        ((⟨.queue (.ack payload), T'.memory, f T'.calls.length (.queue (.ack payload))⟩ :
          Exchange).reply, T'.confirmed f payload) := rfl
      rw [hserve]
      rcases Exchange.cases_refusal (.queue (.ack payload)) T'.memory
        (f T'.calls.length (.queue (.ack payload))) with ⟨e, hr, -⟩ | ⟨hr, -⟩
      · rw [hr]
        rfl
      · rw [hr]
        rfl
  | failed e => rfl
  | crashed c => rfl

/-- Processing a payload crashes, or it makes calls that neither belong to the queue nor count an
event, and then counts the payload once. -/
theorem process_cases (s : Service) (f : Refusals) (T : Trail) (payload : String) :
    (∃ c T', T.run f (s.process payload) = (.crashed c, T')) ∨
      ∃ status T', Trail.Inner T T' ∧
        T.run f (s.process payload) =
          (.ok status, T'.counted f (status.counter (ActivityEvent.kindOf payload))) ∧
        (status = .malformed ↔ ActivityEvent.decode? payload = none) ∧
        ∀ e, ActivityEvent.decode? payload = some e →
          statusOf (T.run f (s.record e)).1 = .ok status := by
  cases hd : ActivityEvent.decode? payload with
  | none =>
      exact .inr ⟨.malformed, T, .refl T, run_process_of_none hd, iff_of_true rfl rfl,
        fun e he => nomatch he⟩
  | some e =>
      have hkind : ActivityEvent.kindOf payload = e.kind.name := by
        rw [ActivityEvent.kindOf, hd]
        rfl
      have hinner := Trail.inner_run (s.only_record_isInner e) f T
      rcases hr : T.run f (s.record e) with ⟨o, T'⟩
      rw [hr] at hinner
      rw [run_process_of_some hd hr, hkind]
      cases o with
      | ok a =>
          refine .inr ⟨.processed, T', hinner, rfl,
            iff_of_false (fun h => nomatch h) (fun h => nomatch h), ?_⟩
          rintro _ ⟨⟩
          rw [hr]
          rfl
      | failed e' =>
          refine .inr ⟨.failed, T', hinner, rfl,
            iff_of_false (fun h => nomatch h) (fun h => nomatch h), ?_⟩
          rintro _ ⟨⟩
          rw [hr]
          rfl
      | crashed c => exact .inl ⟨c, T', rfl⟩

/-- How a payload is accounted for: it is counted once, under its status; after it was processed
it is confirmed once; whether this is refused matters neither to the status nor to any counter. -/
structure Accounts (s : Service) (f : Refusals) (T : Trail) (payload : String)
    (status : PayloadStatus) : Prop where
  outcome : (T.run f (s.handle payload)).1 = .ok status
  malformed_iff : status = .malformed ↔ ActivityEvent.decode? payload = none
  /-- An event is processed if its effect comes to a result, and failed if this fails. -/
  told (e : ActivityEvent) : ActivityEvent.decode? payload = some e →
    statusOf (T.run f (s.record e)).1 = .ok status
  counted :
    let k := status.counter (ActivityEvent.kindOf payload)
    Counts (T.memory.metrics.value k) 1 ((T.run f (s.handle payload)).2.memory.metrics.value k)
  uncounted (k : Counter) : k.isEvent = true →
    k ≠ status.counter (ActivityEvent.kindOf payload) →
      (T.run f (s.handle payload)).2.memory.metrics.value k = T.memory.metrics.value k
  confirmed : (T.run f (s.handle payload)).2 =
    (T.run f (s.process payload)).2.confirmed f payload
  unconfirmed : ∃ xs, (T.run f (s.process payload)).2.calls = xs ++ T.calls ∧
    ∀ x ∈ xs, x.call.isQueue = false
  indifferent (f' : Refusals) : (∀ n c, c ≠ .queue (.ack payload) → f' n c = f n c) →
    (T.run f' (s.handle payload)).1 = .ok status ∧
      (T.run f' (s.handle payload)).2.memory.metrics =
        (T.run f (s.handle payload)).2.memory.metrics

/-- Unless it crashes, a payload is accounted for, whatever is refused. -/
theorem handled (h : (T.run f (s.handle payload)).1.isCrash = false) :
    ∃ status, s.Accounts f T payload status := by
  rcases s.process_cases f T payload with
    ⟨c, T', hp⟩ | ⟨status, T', hinner, hp, hmalformed, htold⟩
  · rw [run_handle hp] at h
    cases h
  · have hrun : T.run f (s.handle payload) =
        (.ok status, (T'.counted f (status.counter (ActivityEvent.kindOf payload))).confirmed f
          payload) := run_handle hp
    have hmetrics : (T.run f (s.handle payload)).2.memory.metrics =
        T'.memory.metrics.add (status.counter (ActivityEvent.kindOf payload)) 1 := by
      rw [hrun]
      exact (Trail.metrics_confirmed f _ payload).trans (Trail.metrics_counted f T' _)
    refine ⟨status, congrArg (·.1) hrun, hmalformed, htold, ?_, fun k hk hne => ?_, ?_, ?_,
      fun f' hf => ?_⟩
    · dsimp only
      rw [hmetrics, ← hinner.events _ (status.isEvent_counter _)]
      exact Metrics.counts_add _ _ 1
    · rw [hmetrics, Metrics.value_add_of_ne _ hne, hinner.events k hk]
    · rw [hrun, hp]
    · obtain ⟨xs, hxs, hq⟩ := hinner.calls
      rw [hp]
      refine ⟨_ :: xs, congrArg (List.cons _) hxs, fun x hx => ?_⟩
      rcases List.mem_cons.1 hx with rfl | hx
      · rfl
      · exact hq x hx
    · -- the payload is processed in the same way, since that makes no call on the queue
      have hagree : T.run f' (s.process payload) = T.run f (s.process payload) := by
        refine Trail.run_congr (fun n c hc => hf n c ?_) (s.only_process payload) T
        rintro rfl
        cases hc
      have hrun' := run_handle (hagree.trans hp)
      rw [hrun', hrun]
      refine ⟨rfl, ?_⟩
      dsimp only
      rw [Trail.metrics_confirmed, Trail.metrics_confirmed]

/-- A payload that is no event, or the event of a blank user, is counted as failed and confirmed;
nothing is asked of the stores, and nothing changes there. -/
structure Passes (s : Service) (f : Refusals) (T : Trail) (payload : String) : Prop where
  outcome : (T.run f (s.handle payload)).1 =
    .ok (if ActivityEvent.decode? payload = none then .malformed else .failed)
  calls : (T.run f (s.handle payload)).2.calls.map (·.call) =
    .queue (.ack payload) :: .count (.eventsFailed (ActivityEvent.kindOf payload)) 1 ::
      T.calls.map (·.call)
  store : (T.run f (s.handle payload)).2.memory.store = T.memory.store
  ledger : (T.run f (s.handle payload)).2.memory.ledger = T.memory.ledger
  profiles : (T.run f (s.handle payload)).2.memory.profiles = T.memory.profiles

/-- The payload is no event, or the event of a blank user. -/
def isInert (payload : String) : Bool :=
  (ActivityEvent.decode? payload).all fun e => Text.isBlankText e.user

theorem run_process_of_isInert (h : isInert payload = true) :
    T.run f (s.process payload) =
      (.ok (if ActivityEvent.decode? payload = none then .malformed else .failed),
        T.counted f (.eventsFailed (ActivityEvent.kindOf payload))) := by
  unfold isInert at h
  unfold ActivityEvent.kindOf
  cases hd : ActivityEvent.decode? payload with
  | none => exact run_process_of_none hd
  | some e =>
      have hblank : Text.isBlankText e.user = true := by rwa [hd] at h
      have hrecord : T.run f (s.record e) = (.failed .missingUser, T) := by
        unfold record
        rw [if_pos hblank]
        rfl
      exact run_process_of_some hd hrecord

theorem passes_of_isInert (h : isInert payload = true) : s.Passes f T payload := by
  have hrun := run_handle (run_process_of_isInert (s := s) (f := f) (T := T) h)
  obtain ⟨q, hq⟩ := Trail.exists_memory_confirmed f
    (T.counted f (.eventsFailed (ActivityEvent.kindOf payload))) payload
  have hmemory : (T.run f (s.handle payload)).2.memory = { T.memory with
      metrics := T.memory.metrics.add (.eventsFailed (ActivityEvent.kindOf payload)) 1
      queue := q } := by
    rw [hrun]
    exact hq
  refine ⟨congrArg (·.1) hrun, ?_, by rw [hmemory], by rw [hmemory], by rw [hmemory]⟩
  rw [hrun]
  rfl

end Service

/-! ## Payloads one after another -/

/-- A payload, and what happens to everything but the counters before it is handled. -/
structure Intake where
  payload : String
  meanwhile : Memory → Memory := id

namespace Trail

/-- What happens to everything but the counters. -/
def await (t : Intake) (T : Trail) : Trail :=
  { T with memory := { t.meanwhile T.memory with metrics := T.memory.metrics } }

/-- Handles payloads one after another. -/
def handleAll (s : Service) (f : Refusals) :
    List Intake → Trail → List (Outcome PayloadStatus) × Trail
  | [], T => ([], T)
  | t :: rest, T =>
    let (o, T) := (T.await t).run f (s.handle t.payload)
    let (os, T) := T.handleAll s f rest
    (o :: os, T)

end Trail

namespace Metrics

/-- The counters of payloads. -/
def payloadCounters : List Counter :=
  [.eventsProcessed "heartbeat", .eventsProcessed "activity", .eventsFailed "heartbeat",
    .eventsFailed "activity", .eventsFailed "malformed"]

/-- The payloads that were counted, whatever became of them. -/
def payloads (m : Metrics) : Nat := (payloadCounters.map m.value).sum

end Metrics

theorem ActivityKind.counter_mem (k : ActivityKind) (status : PayloadStatus) :
    status.counter k.name ∈ Metrics.payloadCounters := by
  cases k <;> cases status <;> decide

namespace Service

variable {s : Service} {f : Refusals} {T : Trail} {payload : String}

/-- A payload that is accounted for is counted once in all. -/
theorem Accounts.payloads {status : PayloadStatus} (h : s.Accounts f T payload status) :
    Counts T.memory.metrics.payloads 1
      (T.run f (s.handle payload)).2.memory.metrics.payloads := by
  have hmem : status.counter (ActivityEvent.kindOf payload) ∈ Metrics.payloadCounters := by
    unfold ActivityEvent.kindOf
    cases hd : ActivityEvent.decode? payload with
    | none =>
        rw [h.malformed_iff.2 hd]
        decide
    | some e => exact e.kind.counter_mem status
  have hone : ∀ k ∈ Metrics.payloadCounters,
      (Metrics.payloadCounters.map fun l => if l = k then 1 else 0).sum = 1 := by decide
  have hevent : ∀ k ∈ Metrics.payloadCounters, k.isEvent = true := by decide
  rw [← hone _ hmem]
  refine Counts.sum fun k hk => ?_
  by_cases he : k = status.counter (ActivityEvent.kindOf payload)
  · rw [if_pos he, he]
    exact h.counted
  · rw [if_neg he, h.uncounted k (hevent k hk) he]
    exact .refl _

/-- Every payload is accounted for unless it crashes, one that is no event or the event of a blank
user without a call to the stores; so after payloads one after another, the counters tell together
how many there were. -/
theorem payloads_accounted (s : Service) (f : Refusals) :
    (∀ (T : Trail) (payload : String), (T.run f (s.handle payload)).1.isCrash = false →
      ∃ status, s.Accounts f T payload status) ∧
    (∀ (T : Trail) (payload : String), isInert payload = true → s.Passes f T payload) ∧
    ∀ (T : Trail) (ts : List Intake), (∀ o ∈ (T.handleAll s f ts).1, o.isCrash = false) →
      Counts T.memory.metrics.payloads ts.length
        (T.handleAll s f ts).2.memory.metrics.payloads := by
  refine ⟨fun T payload h => handled h, fun T payload h => passes_of_isInert h, fun T ts h => ?_⟩
  -- the induction is on the payloads; each of them is counted once
  induction ts generalizing T with
  | nil => exact .refl _
  | cons t rest ih =>
      obtain ⟨status, haccounts⟩ := handled (h _ List.mem_cons_self)
      have hrest := ih _ fun o ho => h o (List.mem_cons_of_mem _ ho)
      have hboth := haccounts.payloads.trans hrest
      rw [Nat.add_comm] at hboth
      exact hboth

/-- No confirmation succeeds. -/
def acksDown : Refusals
  | _, .queue (.ack _) => some (.backend ⟨.databaseError, "queue down", none⟩)
  | _, _ => none

/-- No event, the event of a blank user, and an activity a minute later. -/
def threePayloads : List Intake :=
  [{ payload := "nonsense" }, { payload := ActivityEvent.encode ⟨" ", .heartbeat⟩ },
    ⟨ActivityEvent.encode ⟨"ada", .activity⟩, fun m => m.clockAt (Clock.afterNoon 60)⟩]

theorem accounted_threePayloads :
    let r := (⟨Memory.fresh Clock.noon, []⟩ : Trail).handleAll standard acksDown threePayloads
    r.1 = [.ok .malformed, .ok .failed, .ok .processed] ∧ r.2.memory.metrics.payloads = 3 ∧
      (∃ status, standard.Accounts acksDown ⟨Memory.fresh Clock.noon, []⟩
        (ActivityEvent.encode ⟨"ada", .activity⟩) status) ∧
      standard.Passes acksDown ⟨Memory.fresh Clock.noon, []⟩ "nonsense" := by
  obtain ⟨haccounts, hpasses, hsum⟩ := payloads_accounted standard acksDown
  have hstatuses : ((⟨Memory.fresh Clock.noon, []⟩ : Trail).handleAll standard acksDown
      threePayloads).1 = [.ok .malformed, .ok .failed, .ok .processed] := by
    decide +kernel
  have hcounts := hsum ⟨Memory.fresh Clock.noon, []⟩ threePayloads (by rw [hstatuses]; decide)
  refine ⟨hstatuses, ?_, haccounts _ _ (by decide +kernel), hpasses _ _ (by decide +kernel)⟩
  rw [hcounts.eq_of_lt (by decide +kernel)]
  decide +kernel

end Service

end Presence
