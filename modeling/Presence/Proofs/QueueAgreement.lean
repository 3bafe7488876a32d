import Presence.Clock
import Presence.Proofs.Keyspace
import Presence.Queue

/-!
# The queue in memory and the queue in Redis

The queue in Redis keeps both of its lists the other way round, and a confirmation there takes out
the latest of equal payloads, the queue in memory the earliest. Main statements:
`Remote.queueReplies_eq`, the queue in Redis answers as a queue in memory that confirms the latest,
and `Remote.queue_agrees_iff_clear`, the two queues answer alike, however a run goes on, exactly as
long as no confirmation leaves a doubt which of the equal payloads is meant. Of the server only the
commands of these calls are asked, on two lists (`Remote.queueCommand`).
-/

set_option autoImplicit false

namespace Presence

/-- A call that comes back at some time. -/
def QueueCall.Ends : QueueCall → Prop
  | .next timeout => timeout.isWait = true
  | _ => True

/-- A call that brings an event in. -/
def QueueCall.isEnqueue : QueueCall → Bool
  | .enqueue _ => true
  | _ => false

namespace Queue

/-- Confirms the latest of the payloads being processed that are equal to a text. -/
def ackLatest (q : Queue) (payload : String) : Queue :=
  { q with processing := (q.processing.reverse.erase payload).reverse }

/-- Answers a call as `serve` does, where a confirmation is of the latest payload. -/
def serveLatest : (c : QueueCall) → Queue → Outcome c.Reply × Queue
  | .enqueue event, q => serve (.enqueue event) q
  | .next timeout, q => serve (.next timeout) q
  | .ack payload, q => (.ok (), q.ackLatest payload)
  | .requeue, q => serve .requeue q

/-- Between two payloads being processed that are equal to a text, another one was taken. -/
def Doubtful (q : Queue) (payload : String) : Prop :=
  ∃ other, other ≠ payload ∧ [payload, other, payload].Sublist q.processing

/-- The number of events that come in. -/
def incoming (visits : List (Visit QueueCall)) : Nat := visits.countP (·.call.isEnqueue)

/-- A run from a queue in memory in which no confirmation is doubtful. -/
def Clear : List (Visit QueueCall) → Queue → Prop
  | [], _ => True
  | v :: rest, q =>
    (∀ payload, v.call = .ack payload → ¬ q.Doubtful payload) ∧ Clear rest (serve v.call q).2

/-! ## The earliest and the latest of equal payloads -/

theorem append_singleton_eq_cons_iff {payload : String} {ps : List String} :
    ps ++ [payload] = payload :: ps ↔ ∀ p ∈ ps, p = payload := by
  induction ps with
  | nil => simp
  | cons p ps ih =>
      simp only [List.cons_append, List.cons.injEq, List.forall_mem_cons]
      constructor
      · rintro ⟨rfl, h⟩
        exact ⟨rfl, ih.1 h⟩
      · rintro ⟨rfl, h⟩
        exact ⟨rfl, ih.2 h⟩

/-- What stands in front of the first of equal payloads has no part in a doubt. -/
theorem sublist_append_left_iff {payload other : String} {as bs : List String} (h : payload ∉ as) :
    [payload, other, payload].Sublist (as ++ bs) ↔ [payload, other, payload].Sublist bs := by
  induction as with
  | nil => rfl
  | cons a as ih =>
      simp only [List.mem_cons, not_or] at h
      rw [List.cons_append, List.cons_sublist_cons']
      simp [h.1, ih h.2]

/-- Nor does what stands behind the last of them. -/
theorem sublist_append_right_iff {payload other : String} {as bs : List String} (h : payload ∉ bs) :
    [payload, other, payload].Sublist (as ++ bs) ↔ [payload, other, payload].Sublist as := by
  rw [← List.reverse_sublist, List.reverse_append]
  show [payload, other, payload].Sublist _ ↔ _
  rw [sublist_append_left_iff (by simpa using h), ← List.reverse_sublist, List.reverse_reverse]
  rfl

/-- The last of equal payloads, and what is left without it. -/
theorem exists_last_eq {payload : String} {ps : List String} (h : payload ∈ ps) :
    ∃ as bs, payload ∉ bs ∧ ps = as ++ payload :: bs ∧
      (ps.reverse.erase payload).reverse = as ++ bs := by
  obtain ⟨bs, as, hnot, heq, herase⟩ := List.exists_erase_eq (List.mem_reverse.2 h)
  refine ⟨as.reverse, bs.reverse, by simpa using hnot, ?_, by simp [herase]⟩
  rw [← List.reverse_reverse ps, heq]
  simp

/-- Between the first and the last of equal payloads stands whatever makes a doubt. -/
theorem sublist_between_iff {payload other : String} {as bs cs : List String}
    (has : payload ∉ as) (hcs : payload ∉ cs) (hne : other ≠ payload) :
    [payload, other, payload].Sublist (as ++ payload :: (bs ++ payload :: cs)) ↔ other ∈ bs := by
  have hlast : payload :: (bs ++ payload :: cs) = (payload :: bs ++ [payload]) ++ cs := by simp
  rw [sublist_append_left_iff has, hlast, sublist_append_right_iff hcs]
  constructor
  · intro hsub
    have hmem : other ∈ payload :: bs ++ [payload] := hsub.subset (by simp)
    simpa [hne] using hmem
  · intro hmem
    have hone : [other].Sublist bs := List.singleton_sublist.2 hmem
    exact (hone.append (List.Sublist.refl [payload])).cons_cons payload

/-- It makes no difference which of equal payloads is confirmed exactly where there is no doubt. -/
theorem ackLatest_eq_ack_iff (q : Queue) (payload : String) :
    q.ackLatest payload = q.ack payload ↔ ¬ q.Doubtful payload := by
  have hlists : q.ackLatest payload = q.ack payload ↔
      (q.processing.reverse.erase payload).reverse = q.processing.erase payload := by
    simp [ackLatest, ack]
  rw [hlists]
  by_cases hin : payload ∈ q.processing
  · obtain ⟨as, ms, has, hps, hfirst⟩ := List.exists_erase_eq hin
    by_cases hms : payload ∈ ms
    · obtain ⟨bs, cs, hcs, rfl, -⟩ := exists_last_eq hms
      have hlast : (q.processing.reverse.erase payload).reverse =
          as ++ (payload :: bs ++ cs) := by
        have hrev : q.processing.reverse =
            cs.reverse ++ payload :: (as ++ payload :: bs).reverse := by
          simp [hps]
        rw [hrev, List.erase_append_right _ (by simpa using hcs), List.erase_cons_head]
        simp
      have hshift : bs ++ payload :: cs = bs ++ [payload] ++ cs := by simp
      have hdoubt : q.Doubtful payload ↔ ∃ other, other ≠ payload ∧ other ∈ bs := by
        refine exists_congr fun other => and_congr_right fun hne => ?_
        rw [hps, sublist_between_iff has hcs hne]
      rw [hlast, hfirst, List.append_cancel_left_eq, hshift, List.append_cancel_right_eq, eq_comm,
        append_singleton_eq_cons_iff, hdoubt]
      push Not
      exact forall_congr' fun p => ⟨fun h hne hp => hne (h hp), fun h hp => by_contra (h · hp)⟩
    · have hlast : (q.processing.reverse.erase payload).reverse = as ++ ms := by
        rw [hps, List.reverse_append, List.reverse_cons, List.append_assoc,
          List.erase_append_right _ (by simpa using hms)]
        simp
      have hnot : ¬ q.Doubtful payload := by
        rintro ⟨other, hne, hsub⟩
        rw [hps, sublist_append_left_iff has] at hsub
        exact hms ((List.cons_sublist_cons.1 hsub).subset (by simp))
      exact iff_of_true (hlast.trans hfirst.symm) hnot
  · have hnot : ¬ q.Doubtful payload := fun ⟨_, _, hsub⟩ => hin (hsub.subset (by simp))
    refine iff_of_true ?_ hnot
    rw [List.erase_of_not_mem hin, List.erase_of_not_mem (by simpa using hin),
      List.reverse_reverse]

/-! ## Runs in memory -/

/-- The calls that come back one after another, from a queue that confirms the earliest. -/
abbrev replies (visits : List (Visit QueueCall)) (q : Queue) :
    List (Σ c : QueueCall, Outcome c.Reply) :=
  Visit.answers (fun _ c q => serve c q) visits q

/-- The same from a queue that confirms the latest. -/
abbrev repliesLatest (visits : List (Visit QueueCall)) (q : Queue) :
    List (Σ c : QueueCall, Outcome c.Reply) :=
  Visit.answers (fun _ c q => serveLatest c q) visits q

/-- A look at everything in a queue: what was taken is given back, and then payloads are taken. -/
def inspection (t : Instant) (wait : Binary64) (n : Nat) : List (Visit QueueCall) :=
  ⟨t, .requeue⟩ :: List.replicate n ⟨t, .next wait⟩

/-- Whatever is asked in a look is asked in the shortest one. -/
theorem mem_inspection_one {t : Instant} {wait : Binary64} {n : Nat} {v : Visit QueueCall}
    (h : v ∈ inspection t wait n) : v ∈ inspection t wait 1 := by
  rcases List.mem_cons.1 h with rfl | h
  · exact List.mem_cons_self
  · rw [List.eq_of_mem_replicate h]
    exact List.mem_cons_of_mem _ List.mem_cons_self

/-- One call makes no difference where its confirmation is not doubtful. -/
theorem serveLatest_eq_serve {c : QueueCall} {q : Queue}
    (h : ∀ payload, c = .ack payload → ¬ q.Doubtful payload) : serveLatest c q = serve c q := by
  cases c with
  | enqueue event => rfl
  | next timeout => rfl
  | ack payload =>
      have heq : q.ackLatest payload = q.ack payload :=
        (q.ackLatest_eq_ack_iff payload).2 (h payload rfl)
      simp [serveLatest, serve, heq]
  | requeue => rfl

theorem repliesLatest_eq_of_clear {visits : List (Visit QueueCall)} {q : Queue}
    (h : Clear visits q) : repliesLatest visits q = replies visits q := by
  induction visits generalizing q with
  | nil => rfl
  | cons v rest ih =>
      obtain ⟨hv, hrest⟩ := h
      simp only [repliesLatest, replies, Visit.answers, serveLatest_eq_serve hv]
      exact congrArg _ (ih hrest)

theorem clear_append {us vs : List (Visit QueueCall)} {q : Queue} :
    Clear (us ++ vs) q ↔ Clear us q ∧ Clear vs (Visit.after (fun _ c q => serve c q) us q) := by
  induction us generalizing q with
  | nil => simp [Clear, Visit.after]
  | cons u us ih => simp only [List.cons_append, Clear, Visit.after, ih, and_assoc]

theorem clear_of_noAck {visits : List (Visit QueueCall)}
    (h : ∀ v ∈ visits, ∀ payload, v.call ≠ .ack payload) (q : Queue) : Clear visits q := by
  induction visits generalizing q with
  | nil => trivial
  | cons v rest ih =>
      refine ⟨fun payload hv => absurd hv (h v List.mem_cons_self payload), ih (fun u hu => ?_) _⟩
      exact h u (List.mem_cons_of_mem _ hu)

theorem clear_inspection (t : Instant) (wait : Binary64) (n : Nat) (q : Queue) :
    Clear (inspection t wait n) q := by
  apply clear_of_noAck
  intro v hv payload
  rcases List.mem_cons.1 hv with rfl | hv
  · simp
  · rw [List.eq_of_mem_replicate hv]
    simp

/-- Taking as many payloads as are ready tells what they are. -/
theorem ready_eq_of_replies {t : Instant} {wait : Binary64} {n : Nat} {q r : Queue}
    (hq : q.ready.length = n) (hr : r.ready.length = n)
    (h : replies (List.replicate n ⟨t, .next wait⟩) q =
      replies (List.replicate n ⟨t, .next wait⟩) r) : q.ready = r.ready := by
  induction n generalizing q r with
  | zero => rw [List.length_eq_zero_iff.1 hq, List.length_eq_zero_iff.1 hr]
  | succ n ih =>
      obtain ⟨a, as, ha⟩ := List.exists_cons_of_length_eq_add_one hq
      obtain ⟨b, bs, hb⟩ := List.exists_cons_of_length_eq_add_one hr
      rw [List.replicate_succ, replies, replies, Visit.answers, Visit.answers] at h
      obtain ⟨hhead, htail⟩ := List.cons.inj h
      have hab : a = b := by
        simpa [serve, next, pop, ha, hb] using hhead
      have hrest : as = bs := by
        have hstep := ih (q := (serve (.next wait) q).2) (r := (serve (.next wait) r).2)
          (by simpa [serve, next, pop, ha] using hq) (by simpa [serve, next, pop, hb] using hr)
          htail
        simpa [serve, next, pop, ha, hb] using hstep
      rw [ha, hb, hab, hrest]

theorem length_content_ackLatest (q : Queue) (payload : String) :
    (q.ackLatest payload).content.length = (q.ack payload).content.length := by
  simp [ackLatest, ack, content, List.length_erase]

/-- A look at everything tells what is in a queue. -/
theorem content_eq_of_replies {t : Instant} {wait : Binary64} {n : Nat} {q r : Queue}
    (hq : q.content.length = n) (hr : r.content.length = n)
    (h : replies (inspection t wait n) q = replies (inspection t wait n) r) :
    q.content = r.content := by
  rw [inspection, replies, replies, Visit.answers, Visit.answers] at h
  have htail := (List.cons.inj h).2
  exact ready_eq_of_replies (q := q.requeue.2) (r := r.requeue.2)
    (by simpa [requeue, content] using hq) (by simpa [requeue, content] using hr) htail

/-- A queue that confirms the latest answers as one that confirms the earliest, whenever
everything is looked at afterwards, exactly if no confirmation was doubtful. -/
theorem repliesLatest_eq_iff_clear (t : Instant) (wait : Binary64)
    {visits : List (Visit QueueCall)} {q : Queue} :
    (∀ us, us <+: visits → ∀ n, repliesLatest (us ++ inspection t wait n) q =
      replies (us ++ inspection t wait n) q) ↔ Clear visits q := by
  constructor
  · intro h
    induction visits generalizing q with
    | nil => trivial
    | cons v rest ih =>
        have hv : ∀ payload, v.call = .ack payload → ¬ q.Doubtful payload := by
          intro payload hcall
          rw [← ackLatest_eq_ack_iff]
          have hlook := h [v] ⟨rest, rfl⟩ (q.ack payload).content.length
          rw [List.singleton_append, repliesLatest, replies, Visit.answers, Visit.answers, hcall]
            at hlook
          have htail := (List.cons.inj hlook).2
          have hsame : replies (inspection t wait (q.ack payload).content.length)
              (q.ackLatest payload) = replies (inspection t wait _) (q.ack payload) :=
            (repliesLatest_eq_of_clear (clear_inspection t wait _ _)).symm.trans htail
          have hcontent := content_eq_of_replies (length_content_ackLatest q payload) rfl hsame
          have hprocessing : (q.ackLatest payload).processing = (q.ack payload).processing :=
            List.append_cancel_right hcontent
          simpa [ackLatest, ack] using hprocessing
        refine ⟨hv, ih fun us hus n => ?_⟩
        have hstep := h (v :: us) (List.cons_prefix_cons.2 ⟨rfl, hus⟩) n
        rw [List.cons_append, repliesLatest, replies, Visit.answers, Visit.answers,
          serveLatest_eq_serve hv] at hstep
        exact (List.cons.inj hstep).2
  · rintro h us ⟨vs, rfl⟩ n
    apply repliesLatest_eq_of_clear
    exact clear_append.2 ⟨(clear_append.1 h).1, clear_inspection t wait n _⟩

theorem canWait_of_isWait {x : Binary64} (h : x.isWait = true) : canWait x = true := by
  unfold Binary64.isWait at h
  split at h
  · simp only [Bool.and_eq_true, decide_eq_true_eq] at h
    simp only [canWait, Bool.false_or, decide_eq_true_eq]
    omega
  · cases h

/-- Only an event that comes in leaves a payload more. -/
theorem length_content_serveLatest (c : QueueCall) (q : Queue) :
    (serveLatest c q).2.content.length ≤ q.content.length + if c.isEnqueue then 1 else 0 := by
  cases c with
  | enqueue event =>
      simp [serveLatest, serve, submit, push, content, QueueCall.isEnqueue, Nat.add_assoc]
  | next timeout =>
      cases h : q.ready with
      | nil =>
          simp only [serveLatest, serve, next, pop, h]
          split <;> simp [content, h]
      | cons p rest => simp [serveLatest, serve, next, pop, h, content]
  | ack payload =>
      have herase : ((q.processing.reverse.erase payload).reverse).length ≤
          q.processing.length := by
        simpa using List.length_erase_le (l := q.processing.reverse)
      simp only [serveLatest, ackLatest, content, List.length_append]
      omega
  | requeue => simp [serveLatest, serve, requeue, content]

end Queue

namespace Remote

open Keyspace

/-- The command of a call of the queue; to give back what was taken, it is sent over and over. -/
def queueCommand (key consumer : String) : QueueCall → RedisCommand
  | .enqueue event => .pushLeft key event.encode
  | .next timeout => .moveWaiting key (processingKey key consumer) timeout
  | .ack payload => .removeFirst (processingKey key consumer) payload
  | .requeue => .moveBack (processingKey key consumer) key

/-- The lists of a server hold a queue, both of them the other way round. -/
structure Holds (key consumer : String) (k : Keyspace) (q : Queue) : Prop where
  ready : k key = listOf q.ready.reverse
  processing : k (processingKey key consumer) = listOf q.processing.reverse

theorem processingKey_ne (key consumer : String) : processingKey key consumer ≠ key := by
  intro h
  have hlen := congrArg (fun s : String => s.toList.length) h
  simp [processingKey, String.toList_append] at hlen

section Server

variable {σ : Type} {spell : Binary64 → String} {sent : RedisCommand → Prop}
  {serve : Instant → (c : RemoteCall) → σ → Outcome c.Reply × σ}
  {stands : Instant → σ → Keyspace → Prop} {key consumer : String} {t now : Instant} {s : σ}

/-- Everything in the list of what was taken is moved back, from its left end to the right end of
the queue. -/
theorem run_moveBackUpTo (h : Answers spell sent serve stands)
    (hsent : sent (.moveBack (processingKey key consumer) key)) {room : Nat} {items : List String}
    (hroom : items.length ≤ room) (moved : Nat) {k : Keyspace} {others : List String}
    (hs : stands t s k) (ht : t ≤ now) (hp : k (processingKey key consumer) = listOf items)
    (hq : k key = listOf others) :
    ∃ s' k', Program.run (serve now) (moveBackUpTo key consumer moved room) s =
        (.ok (moved + items.length), s') ∧
      stands now s' k' ∧ k' (processingKey key consumer) = listOf [] ∧
      k' key = listOf (others ++ items) := by
  induction items generalizing room moved s k others t with
  | nil =>
      have hnone := answer_moveBack_nil spell now.millis key hp
      -- the list is empty before the room is used up, and as well when it is
      cases room <;>
      · rw [moveBackUpTo]
        obtain ⟨s', hs', hrun⟩ := h.run_bind hs ht hsent hnone _
        exact ⟨s', k, hrun, hs', hp, by simpa using hq⟩
  | cons item rest ih =>
      have hne := (processingKey_ne key consumer).symm
      have hone := answer_moveBack_cons spell now.millis item hne hp hq
      obtain ⟨room, rfl⟩ : ∃ n, room = n + 1 :=
        ⟨room - 1, by simp only [List.length_cons] at hroom; omega⟩
      rw [moveBackUpTo]
      obtain ⟨s', hs', hrun⟩ := h.run_bind hs ht hsent hone _
      obtain ⟨s'', k'', hrest, hs'', hempty, hfull⟩ :=
        ih (Nat.le_of_succ_le_succ hroom) (moved + 1) hs' (Int.le_refl _)
          (by rw [put_of_ne _ _ hne.symm, put_self]) (put_self ..)
      refine ⟨s'', k'', hrun.trans (hrest.trans ?_), hs'', hempty, by simpa using hfull⟩
      rw [List.length_cons, Nat.add_assoc, Nat.add_comm 1]

/-- Each call of the queue in Redis is answered as in memory, where a confirmation is of the
latest of equal payloads. -/
theorem run_queue (h : Answers spell sent serve stands) {c : QueueCall}
    (hsent : sent (queueCommand key consumer c)) {k : Keyspace} {q : Queue}
    (hs : stands t s k) (ht : t ≤ now) (hq : Holds key consumer k q) (hc : c.Ends)
    (hroom : q.content.length ≤ mostPayloads) :
    ∃ s' k', Program.run (serve now) (queue key consumer c) s = ((q.serveLatest c).1, s') ∧
      stands now s' k' ∧ Holds key consumer k' (q.serveLatest c).2 := by
  have hne := processingKey_ne key consumer
  cases c with
  | enqueue event =>
      have hsent : sent (.pushLeft key event.encode) := hsent
      have hpush := answer_pushLeft spell now.millis event.encode hq.ready
      obtain ⟨s', hs', hrun⟩ := h.run_bind hs ht hsent hpush _
      refine ⟨s', _, hrun, hs', ?_, ?_⟩
      · simp [Queue.serveLatest, Queue.serve, Queue.submit, Queue.push]
      · rw [put_of_ne _ _ hne]
        exact hq.processing
  | next timeout =>
      have hsent : sent (.moveWaiting key (processingKey key consumer) timeout) := hsent
      cases hr : q.ready with
      | nil =>
          have hnil : k key = listOf [] := by rw [hq.ready, hr]; rfl
          have hnone := answer_moveWaiting_nil spell now.millis timeout
            (processingKey key consumer) hnil
          obtain ⟨s', hs', hrun⟩ := h.run_bind hs ht hsent hnone _
          have hstep : q.serveLatest (.next timeout) = (.ok none, { q with signal := false }) := by
            simp [Queue.serveLatest, Queue.serve, Queue.next, Queue.pop, hr,
              Queue.canWait_of_isWait hc]
          rw [hstep]
          exact ⟨s', k, hrun, hs', hq.ready, hq.processing⟩
      | cons p rest =>
          have hlast : k key = listOf (rest.reverse ++ [p]) := by rw [hq.ready, hr]; simp
          have hsome := answer_moveWaiting_append spell now.millis timeout p hne hlast hq.processing
          obtain ⟨s', hs', hrun⟩ := h.run_bind hs ht hsent hsome _
          have hstep : q.serveLatest (.next timeout) =
              (.ok (some p), { q with ready := rest, processing := q.processing ++ [p] }) := by
            simp [Queue.serveLatest, Queue.serve, Queue.next, Queue.pop, hr]
          rw [hstep]
          refine ⟨s', _, hrun, hs', ?_, by simp⟩
          rw [put_of_ne _ _ hne.symm, put_self]
  | ack payload =>
      have hsent : sent (.removeFirst (processingKey key consumer) payload) := hsent
      have hremove := answer_removeFirst spell now.millis payload hq.processing
      obtain ⟨s', hs', hrun⟩ := h.run_bind hs ht hsent hremove _
      refine ⟨s', _, hrun, hs', ?_, ?_⟩
      · rw [put_of_ne _ _ hne.symm]
        exact hq.ready
      · simp [Queue.serveLatest, Queue.ackLatest]
  | requeue =>
      have hlength : q.processing.reverse.length ≤ mostPayloads := by
        simp only [Queue.content, List.length_append] at hroom
        simp only [List.length_reverse]
        omega
      obtain ⟨s', k', hrun, hs', hempty, hfull⟩ :=
        run_moveBackUpTo h hsent hlength 0 hs ht hq.processing hq.ready
      refine ⟨s', k', hrun.trans ?_, hs', ?_, ?_⟩
      · simp [Queue.serveLatest, Queue.serve, Queue.requeue]
      · simpa [Queue.serveLatest, Queue.serve, Queue.requeue] using hfull
      · simpa [Queue.serveLatest, Queue.serve, Queue.requeue] using hempty

/-- The calls that come back one after another, from the queue in Redis. -/
abbrev queueReplies (serve : Instant → (c : RemoteCall) → σ → Outcome c.Reply × σ)
    (key consumer : String) (visits : List (Visit QueueCall)) (s : σ) :
    List (Σ c : QueueCall, Outcome c.Reply) :=
  Visit.answers (fun t c s => Program.run (serve t) (queue key consumer c) s) visits s

/-- The queue in Redis answers a run as a queue in memory that confirms the latest of equal
payloads. -/
theorem queueReplies_eq (h : Answers spell sent serve stands) {visits : List (Visit QueueCall)}
    (hsent : ∀ v ∈ visits, sent (queueCommand key consumer v.call)) {k : Keyspace} {q : Queue}
    (hs : stands t s k) (hq : Holds key consumer k q)
    (hordered : Visit.Ordered t visits) (hends : ∀ v ∈ visits, v.call.Ends)
    (hroom : q.content.length + Queue.incoming visits ≤ mostPayloads) :
    queueReplies serve key consumer visits s = Queue.repliesLatest visits q := by
  induction visits generalizing t s k q with
  | nil => rfl
  | cons v rest ih =>
      obtain ⟨ht, hrest⟩ := hordered
      rw [Queue.incoming, List.countP_cons] at hroom
      obtain ⟨s', k', hrun, hs', hq'⟩ :=
        run_queue h (hsent v List.mem_cons_self) hs ht hq (hends v List.mem_cons_self) (by omega)
      have hlength := Queue.length_content_serveLatest v.call q
      have htail := ih (fun u hu => hsent u (List.mem_cons_of_mem _ hu)) hs' hq' hrest
        (fun u hu => hends u (List.mem_cons_of_mem _ hu)) (by rw [Queue.incoming]; omega)
      simp only [queueReplies, Queue.repliesLatest, Visit.answers, hrun]
      exact congrArg _ htail

theorem holds_empty (key consumer : String) : Holds key consumer .empty {} := ⟨rfl, rfl⟩

/-- From two queues without payloads, a run and whatever is looked at afterwards, anywhere on its
way, come back with the same replies from Redis as in memory exactly if no confirmation of the run
was doubtful. The server need answer only the commands of that run and of the looks as it is
documented. -/
theorem queue_agrees_iff_clear {visits : List (Visit QueueCall)} {last : Instant} {wait : Binary64}
    (h : Answers spell
      (Visit.Sends (queueCommand key consumer) (visits ++ Queue.inspection last wait 1))
      serve stands)
    {k : Keyspace} (hs : stands t s k) (hk : Holds key consumer k {})
    (hends : ∀ v ∈ visits, v.call.Ends) (hroom : Queue.incoming visits ≤ mostPayloads)
    (hwait : wait.isWait = true) (hordered : Visit.Ordered t (visits ++ [⟨last, .next wait⟩])) :
    (∀ us, us <+: visits → ∀ n,
      queueReplies serve key consumer (us ++ Queue.inspection last wait n) s =
        Queue.replies (us ++ Queue.inspection last wait n) {}) ↔ Queue.Clear visits {} := by
  rw [← Queue.repliesLatest_eq_iff_clear last wait]
  refine forall_congr' fun us => forall_congr' fun ⟨vs, hvs⟩ => forall_congr' fun n => ?_
  have hlook : ∀ v ∈ Queue.inspection last wait n, v.time = last ∧ v.call.Ends := by
    intro v hv
    rcases List.mem_cons.1 hv with rfl | hv
    · exact ⟨rfl, trivial⟩
    · rw [List.eq_of_mem_replicate hv]
      exact ⟨rfl, hwait⟩
  have hcalls : ∀ v ∈ us ++ Queue.inspection last wait n, v.call.Ends := by
    intro v hv
    rcases List.mem_append.1 hv with hv | hv
    · exact hends v (hvs ▸ List.mem_append_left _ hv)
    · exact (hlook v hv).2
  have hsent : ∀ v ∈ us ++ Queue.inspection last wait n,
      Visit.Sends (queueCommand key consumer) (visits ++ Queue.inspection last wait 1)
        (queueCommand key consumer v.call) := by
    intro v hv
    refine ⟨v, ?_, rfl⟩
    rcases List.mem_append.1 hv with hv | hv
    · exact List.mem_append_left _ (hvs ▸ List.mem_append_left _ hv)
    · exact List.mem_append_right _ (Queue.mem_inspection_one hv)
  have htimes : Visit.Ordered t (us ++ Queue.inspection last wait n) := by
    rw [← hvs] at hordered
    exact hordered.cut fun v hv => (hlook v hv).1
  have hin : Queue.incoming (us ++ Queue.inspection last wait n) ≤ mostPayloads := by
    have hnone : Queue.incoming (Queue.inspection last wait n) = 0 := by
      simp [Queue.incoming, Queue.inspection, QueueCall.isEnqueue, List.countP_replicate]
    have hless : Queue.incoming us ≤ Queue.incoming visits := by
      rw [← hvs, Queue.incoming, Queue.incoming, List.countP_append]
      exact Nat.le_add_right _ _
    rw [Queue.incoming, List.countP_append]
    simp only [Queue.incoming] at hnone hless hroom
    omega
  rw [queueReplies_eq h hsent hs hk htimes hcalls (by simpa [Queue.content] using hin)]

end Server

/-- Two equal events: both are taken and one is confirmed. -/
def twinEvents : List (Visit QueueCall) :=
  let ada : ActivityEvent := ⟨"ada", .activity⟩
  [.enqueue ada, .enqueue ada, .next (.ofInt 1), .next (.ofInt 1), .ack ada.encode].map
    (⟨Clock.noon, ·⟩)

theorem queue_agrees_twinEvents :
    Queue.Clear twinEvents {} ∧ ∀ us, us <+: twinEvents → ∀ n,
      queueReplies (Keyspace.serve spellWhole) "events" "worker"
          (us ++ Queue.inspection Clock.noon (.ofInt 1) n) Keyspace.empty =
        Queue.replies (us ++ Queue.inspection Clock.noon (.ofInt 1) n) {} := by
  have hwait : (Binary64.ofInt 1).isWait = true := by decide
  have hrefl : Clock.noon ≤ Clock.noon := Int.le_refl _
  have hends : ∀ v ∈ twinEvents, v.call.Ends := by
    simp [twinEvents, QueueCall.Ends, hwait]
  have hordered : Visit.Ordered Clock.noon (twinEvents ++ [⟨Clock.noon, .next (.ofInt 1)⟩]) := by
    simp [twinEvents, Visit.Ordered, hrefl]
  have hclear : Queue.Clear twinEvents {} := by
    simp only [twinEvents, List.map_cons, List.map_nil, Queue.Clear, reduceCtorEq, false_implies,
      implies_true, true_and, and_true, QueueCall.ack.injEq]
    rintro payload rfl
    rw [← Queue.ackLatest_eq_ack_iff]
    decide
  exact ⟨hclear, (queue_agrees_iff_clear (answers_serve _ _) rfl (holds_empty _ _) hends (by decide)
    hwait hordered).2 hclear⟩

/-- Two equal events around another one: all are taken, one of the equal ones is confirmed, and
everything is given back and taken again. -/
def equalEvents : List (Visit QueueCall) :=
  let ada : ActivityEvent := ⟨"ada", .activity⟩
  let bob : ActivityEvent := ⟨"bob", .activity⟩
  let wait : QueueCall := .next (.ofInt 1)
  [.enqueue ada, .enqueue bob, .enqueue ada, wait, wait, wait, .ack ada.encode, .requeue, wait,
    wait].map (⟨Clock.noon, ·⟩)

/-- The payload that a call came back with. -/
def payload? : (Σ c : QueueCall, Outcome c.Reply) → Option String
  | ⟨.next _, .ok p⟩ => p
  | _ => none

theorem queue_disagrees_equalEvents :
    (∀ v ∈ equalEvents, v.call.Ends) ∧ Visit.Ordered Clock.noon equalEvents ∧
      queueReplies (Keyspace.serve spellWhole) "events" "worker" equalEvents Keyspace.empty ≠
        Queue.replies equalEvents {} := by
  have hends : ∀ v ∈ equalEvents, v.call.Ends := by
    have hwait : (Binary64.ofInt 1).isWait = true := by decide
    simp [equalEvents, QueueCall.Ends, hwait]
  have hordered : Visit.Ordered Clock.noon equalEvents := by
    have hrefl : Clock.noon ≤ Clock.noon := Int.le_refl _
    simp [equalEvents, Visit.Ordered, hrefl]
  refine ⟨hends, hordered, ?_⟩
  have hserve := answers_serve spellWhole fun _ => True
  rw [queueReplies_eq hserve (fun _ _ => trivial) rfl (holds_empty _ _) hordered hends (by decide)]
  intro heq
  exact absurd (congrArg (List.map payload?) heq) (by decide)

end Remote

end Presence
