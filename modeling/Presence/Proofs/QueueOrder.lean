import Presence.Queue

/-!
# The order of a queue

A queue is one line of payloads with a border in it. In front of the border stand the payloads that
are being processed, behind it those that are ready. A push puts a payload at the end of the line, a
taking moves the border past one payload, giving back moves the border to the front, and a
confirmation takes one payload out from before the border. Main statement: `Queue.keeps_order`, a
queue answers as its line does, and after everything was given back the payloads that were pushed
and not confirmed are handed out in the order in which they were pushed, and then the newer ones.
-/

set_option autoImplicit false

namespace Presence

/-- What is done to a queue while nobody waits for a payload. -/
inductive QueueMove where
  /-- Any text is pushed. -/
  | push (payload : String)
  | call (c : QueueCall)
  deriving Repr, DecidableEq

namespace QueueMove

/-- The type of the reply to a move. -/
@[reducible]
def Reply : QueueMove → Type
  | .push _ => Unit
  | .call c => c.Reply

/-- A move and how it came back. -/
abbrev Answer := Σ v : QueueMove, Outcome v.Reply

/-- The payload that a move pushes. -/
def pushed? : QueueMove → Option String
  | .push p => some p
  | .call (.enqueue e) => some e.encode
  | .call _ => none

/-- The payloads that moves push, in their order. -/
def pushed (vs : List QueueMove) : List String := vs.filterMap pushed?

/-- A move that comes back: no payload is asked for with a time that is no span of time. -/
def Returns : QueueMove → Prop
  | .call (.next timeout) => Queue.canWait timeout = true
  | _ => True

/-- The payload that a move has handed out. -/
def handedOut? : Answer → Option String
  | ⟨.call (.next _), .ok p⟩ => p
  | _ => none

/-- The payloads that moves have handed out, in their order. -/
def handedOut (as : List Answer) : List String := as.filterMap handedOut?

theorem pushed_cons (v : QueueMove) (rest : List QueueMove) :
    pushed (v :: rest) = v.pushed?.toList ++ pushed rest := by
  cases h : v.pushed? <;> simp [pushed, h]

theorem handedOut_cons (a : Answer) (rest : List Answer) :
    handedOut (a :: rest) = (handedOut? a).toList ++ handedOut rest := by
  cases h : handedOut? a <;> simp [handedOut, h]

/-- Makes moves one after another. -/
def makeAll {σ : Type} (make : (v : QueueMove) → σ → Outcome v.Reply × σ) :
    List QueueMove → σ → List Answer × σ
  | [], x => ([], x)
  | v :: rest, x =>
    let (r, x) := make v x
    let (as, x) := makeAll make rest x
    (⟨v, r⟩ :: as, x)

end QueueMove

/-- Payloads one behind the other, with a border among them. -/
structure Line where
  items : List String
  /-- The number of payloads in front of the border. -/
  border : Nat
  deriving Repr, DecidableEq

namespace Line

/-- Puts a payload at the end. -/
def push (l : Line) (payload : String) : Line := { l with items := l.items ++ [payload] }

/-- Moves the border past the payload that stands behind it, if there is one. -/
def take (l : Line) : Line :=
  if l.border < l.items.length then { l with border := l.border + 1 } else l

/-- Takes out the first of the payloads in front of the border that are equal to a text. -/
def confirm (l : Line) (payload : String) : Line :=
  match (l.items.take l.border).idxOf? payload with
  | some i => ⟨l.items.eraseIdx i, l.border - 1⟩
  | none => l

/-- Makes a move. -/
def make : (v : QueueMove) → Line → Outcome v.Reply × Line
  | .push p, l => (.ok (), l.push p)
  | .call (.enqueue e), l => (.ok (), l.push e.encode)
  | .call (.next _), l => (.ok l.items[l.border]?, l.take)
  | .call (.ack p), l => (.ok (), l.confirm p)
  | .call .requeue, l => (.ok l.border, { l with border := 0 })

end Line

namespace Queue

open QueueMove

/-- The line of a queue. -/
def line (q : Queue) : Line := ⟨q.content, q.processing.length⟩

/-- Makes a move. -/
def make : (v : QueueMove) → Queue → Outcome v.Reply × Queue
  | .push p, q => (.ok (), q.submit p)
  | .call c, q => serve c q

/-- The payload that a move confirms: one that is being processed. -/
def confirmed? (q : Queue) : QueueMove → Option String
  | .call (.ack p) => if p ∈ q.processing then some p else none
  | _ => none

/-- The payloads that moves confirm. -/
def confirmed : List QueueMove → Queue → List String
  | [], _ => []
  | v :: rest, q => (q.confirmed? v).toList ++ confirmed rest (make v q).2

variable {q : Queue}

/-! ## A queue and its line -/

theorem line_ack (payload : String) : (q.ack payload).line = q.line.confirm payload := by
  have htake : q.line.items.take q.line.border = q.processing := List.take_left
  unfold Line.confirm
  rw [htake, line, ack, content]
  dsimp only
  rw [List.erase_eq_eraseIdx]
  cases h : q.processing.idxOf? payload with
  | none => rfl
  | some i =>
      -- the payload stands in front of the border, which moves up by one
      obtain ⟨hlt, -⟩ := List.idxOf?_eq_some_iff.1 h
      simp only [line, content, List.eraseIdx_append_of_lt_length hlt, List.length_eraseIdx, hlt,
        if_true]

theorem make_next {timeout : Binary64} (h : canWait timeout = true) :
    Line.make (.call (.next timeout)) q.line =
      ((make (.call (.next timeout)) q).1, (make (.call (.next timeout)) q).2.line) := by
  obtain ⟨ready, processing, signal⟩ := q
  cases ready with
  | nil => simp [make, serve, next, pop, h, Line.make, Line.take, line, content]
  | cons p rest => simp [make, serve, next, pop, Line.make, Line.take, line, content]

/-- A queue answers a move as its line does. -/
theorem line_make {v : QueueMove} (h : v.Returns) :
    Line.make v q.line = ((make v q).1, (make v q).2.line) := by
  cases v with
  | push p => exact congrArg (Prod.mk _) (congrArg (Line.mk · _) (q.content_push p).symm)
  | call c =>
      cases c with
      | enqueue e => exact congrArg (Prod.mk _) (congrArg (Line.mk · _) (q.content_push _).symm)
      | next timeout => exact make_next h
      | ack p => exact congrArg (Prod.mk _) (line_ack p).symm
      | requeue => exact congrArg (Prod.mk _) (congrArg (Line.mk · _) q.content_requeue.symm)

theorem line_makeAll {vs : List QueueMove} (h : ∀ v ∈ vs, v.Returns) :
    makeAll Line.make vs q.line = ((makeAll make vs q).1, (makeAll make vs q).2.line) := by
  induction vs generalizing q with
  | nil => rfl
  | cons v rest ih =>
      obtain ⟨hv, hrest⟩ := List.forall_mem_cons.1 h
      simp only [makeAll, line_make hv, ih hrest]

/-! ## What is left, and in which order it comes out -/

theorem content_next (timeout : Binary64) : (q.next timeout).2.content = q.content := by
  have hpop := q.content_pop
  unfold next
  split
  · rename_i h
    rwa [h] at hpop
  · rename_i h
    rw [h] at hpop
    split
    · exact hpop
    · exact hpop

/-- A move that confirms nothing only adds to the line what it pushes. -/
theorem content_make_of_none {v : QueueMove} (h : q.confirmed? v = none) :
    (make v q).2.content = q.content ++ v.pushed?.toList := by
  cases v with
  | push p => exact q.content_push p
  | call c =>
      cases c with
      | enqueue e => exact q.content_push e.encode
      | next timeout => exact (content_next timeout).trans (List.append_nil _).symm
      | requeue => exact q.content_requeue.trans (List.append_nil _).symm
      | ack p =>
          have hnot : p ∉ q.processing := fun hin => by simp [confirmed?, hin] at h
          simp [make, serve, ack, content, pushed?, List.erase_of_not_mem hnot]

/-- A move that confirms a payload takes the first one out of the line that is equal to it. -/
theorem content_make_of_some {v : QueueMove} {p : String} (h : q.confirmed? v = some p) :
    p ∈ q.content ∧ v.pushed? = none ∧ (make v q).2.content = q.content.erase p := by
  unfold confirmed? at h
  split at h
  · rename_i p'
    split at h
    · rename_i hin
      obtain rfl := Option.some.inj h
      exact ⟨List.mem_append_left _ hin, rfl, (List.erase_append_left _ hin).symm⟩
    · cases h
  · cases h

/-- Of payloads that differ from each other those are left that were not confirmed, in the order in
which they were pushed. -/
theorem content_makeAll {vs : List QueueMove} (h : (q.content ++ pushed vs).Nodup) :
    (makeAll make vs q).2.content =
      (q.content ++ pushed vs).filter fun p => p ∉ confirmed vs q := by
  induction vs generalizing q with
  | nil =>
      rw [pushed, List.filterMap_nil, List.append_nil]
      exact (List.filter_eq_self.2 fun p _ => decide_eq_true List.not_mem_nil).symm
  | cons v rest ih =>
      rw [pushed_cons] at h
      rw [pushed_cons, confirmed]
      show (makeAll make rest (make v q).2).2.content = _
      cases hc : q.confirmed? v with
      | none =>
          have hcontent := content_make_of_none hc
          rw [ih (by rwa [hcontent, List.append_assoc]), hcontent, List.append_assoc]
          rfl
      | some p =>
          obtain ⟨hin, hnone, hcontent⟩ := content_make_of_some hc
          rw [hnone] at h ⊢
          change (q.content ++ pushed rest).Nodup at h
          -- what is confirmed occurs nowhere else
          have herase : q.content.erase p ++ pushed rest =
              (q.content ++ pushed rest).filter (· ≠ p) := by
            rw [← List.erase_append_left _ hin, h.erase_eq_filter]
            simp only [ne_eq, decide_not]
            rfl
          rw [ih (by rw [hcontent, herase]; exact h.filter _), hcontent, herase, List.filter_filter]
          refine List.filter_congr fun x _ => ?_
          simp [Bool.and_comm]

/-- Until something is given back, what is handed out and what is then ready is what was ready and
what is pushed. -/
theorem handedOut_append_ready_make {v : QueueMove} (h : v ≠ .call .requeue) :
    (handedOut? ⟨v, (make v q).1⟩).toList ++ (make v q).2.ready =
      q.ready ++ v.pushed?.toList := by
  cases v with
  | push p => rfl
  | call c =>
      cases c with
      | enqueue e => rfl
      | ack p => exact (List.append_nil _).symm
      | requeue => exact absurd rfl h
      | next timeout =>
          obtain ⟨ready, processing, signal⟩ := q
          cases ready with
          | nil =>
              simp only [make, serve, next, pop]
              split <;> rfl
          | cons p rest => simp [make, serve, next, pop, handedOut?, pushed?]

theorem handedOut_append_ready {vs : List QueueMove} (h : .call .requeue ∉ vs) :
    handedOut (makeAll make vs q).1 ++ (makeAll make vs q).2.ready = q.ready ++ pushed vs := by
  induction vs generalizing q with
  | nil => simp [makeAll, handedOut, pushed]
  | cons v rest ih =>
      obtain ⟨hv, hrest⟩ : v ≠ .call .requeue ∧ .call .requeue ∉ rest := by
        simpa [eq_comm] using h
      calc handedOut (makeAll make (v :: rest) q).1 ++ (makeAll make (v :: rest) q).2.ready
          = (handedOut? ⟨v, (make v q).1⟩).toList ++
              (handedOut (makeAll make rest (make v q).2).1 ++
                (makeAll make rest (make v q).2).2.ready) := by
            simp only [makeAll, handedOut_cons, List.append_assoc]
        _ = (handedOut? ⟨v, (make v q).1⟩).toList ++ (make v q).2.ready ++ pushed rest := by
            rw [ih hrest, List.append_assoc]
        _ = q.ready ++ pushed (v :: rest) := by
            rw [handedOut_append_ready_make hv, pushed_cons, List.append_assoc]

/-- A queue answers every sequence of moves as its line does. If all payloads differ, then after
everything was given back those that were not confirmed are handed out in the order in which they
were pushed, and behind them the newer ones. -/
theorem keeps_order (q : Queue) {vs : List QueueMove} (h : ∀ v ∈ vs, v.Returns) :
    makeAll Line.make vs q.line = ((makeAll make vs q).1, (makeAll make vs q).2.line) ∧
      ((q.content ++ pushed vs).Nodup → ∀ later, .call .requeue ∉ later →
        let again := makeAll make (.call .requeue :: later) (makeAll make vs q).2
        handedOut again.1 ++ again.2.ready =
          ((q.content ++ pushed vs).filter fun p => p ∉ confirmed vs q) ++ pushed later) := by
  refine ⟨line_makeAll h, fun hnodup later hlater => ?_⟩
  rw [← content_makeAll hnodup]
  exact handedOut_append_ready (q := (makeAll make vs q).2.requeue.2) hlater

/-- Three payloads are taken, and the second one is confirmed. -/
def secondConfirmed : List QueueMove :=
  let wait : QueueCall := .next (.ofInt 0)
  [.push "ada", .push "bob", .push "eve", .call wait, .call wait, .call wait, .call (.ack "bob")]

/-- A newer payload is pushed, and one payload more is asked for than there are. -/
def newerPushed : List QueueMove :=
  let wait : QueueCall := .next (.ofInt 0)
  [.push "dan", .call wait, .call wait, .call wait, .call wait]

theorem keeps_order_secondConfirmed :
    (∀ v ∈ secondConfirmed, v.Returns) ∧ (pushed secondConfirmed).Nodup ∧
      .call .requeue ∉ newerPushed ∧
      let again := makeAll make (.call .requeue :: newerPushed) (makeAll make secondConfirmed {}).2
      handedOut again.1 ++ again.2.ready = ["ada", "eve", "dan"] := by
  have hreturns : ∀ v ∈ secondConfirmed, v.Returns := by
    have hwait : canWait (.ofInt 0) = true := by decide
    simp [secondConfirmed, Returns, hwait]
  have hnodup : (pushed secondConfirmed).Nodup := by decide
  have hnot : .call .requeue ∉ newerPushed := by decide
  exact ⟨hreturns, hnodup, hnot, (keeps_order {} hreturns).2 hnodup newerPushed hnot⟩

end Queue

end Presence
