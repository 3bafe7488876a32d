import Presence.Fault
import Presence.Proofs.Contract
import Presence.Proofs.Request

/-!
# Requests side by side

A pool holds the surroundings, the programs of all requests that were begun, and the calls that were
made. A move lets one program make its next call, which the backend may refuse, or sets the clock,
or begins a request; `Pool.play` makes a list of moves. Main statements: what every program keeps by
itself is kept by requests one after another (`Pool.play_sequential`), and what every program keeps
whatever the others do is kept by requests side by side (`Pool.play_abiding`).
-/

set_option autoImplicit false

namespace Presence

/-- A call that was made in some surroundings, and the failure with which the backend has refused
it, if it has. -/
structure Exchange where
  call : Call
  before : Memory
  refused : Option Failure

namespace Exchange

/-- The failure of a call. A call that is made to no backend is not refused. -/
def refusal (x : Exchange) : Option Failure := if x.call.site?.isSome then x.refused else none

/-- What the call came back with. -/
def reply (x : Exchange) : Outcome x.call.Reply :=
  match x.refusal with
  | some e => .failed e
  | none => (Memory.serve x.call x.before).1

/-- The surroundings after the call. -/
def after (x : Exchange) : Memory :=
  match x.refusal with
  | some _ => x.before
  | none => (Memory.serve x.call x.before).2

/-- Whether a call is refused does not depend on what it is made in. -/
theorem refused_or_served (c : Call) (refused : Option Failure) :
    (∃ e, ∀ m, reply ⟨c, m, refused⟩ = .failed e ∧ after ⟨c, m, refused⟩ = m) ∨
      ∀ m, reply ⟨c, m, refused⟩ = (Memory.serve c m).1 ∧
        after ⟨c, m, refused⟩ = (Memory.serve c m).2 := by
  have hr (m : Memory) : refusal ⟨c, m, refused⟩ = if c.site?.isSome then refused else none := rfl
  unfold reply after
  simp only [hr]
  cases (if c.site?.isSome then refused else none) with
  | some e => exact .inl ⟨e, fun m => ⟨rfl, rfl⟩⟩
  | none => exact .inr fun m => ⟨rfl, rfl⟩

theorem cases_refusal (c : Call) (m : Memory) (refused : Option Failure) :
    (∃ e, reply ⟨c, m, refused⟩ = .failed e ∧ after ⟨c, m, refused⟩ = m) ∨
      (reply ⟨c, m, refused⟩ = (Memory.serve c m).1 ∧
        after ⟨c, m, refused⟩ = (Memory.serve c m).2) := by
  rcases refused_or_served c refused with ⟨e, h⟩ | h
  · exact .inl ⟨e, h m⟩
  · exact .inr (h m)

/-- What holds before a call and after it is served holds after it, refused or not. -/
theorem holds_after {I : Memory → Prop} {c : Call} {m : Memory} (hm : I m)
    (hs : I (Memory.serve c m).2) (refused : Option Failure) : I (after ⟨c, m, refused⟩) := by
  rcases cases_refusal c m refused with ⟨e, -, ha⟩ | ⟨-, ha⟩
  · rw [ha]
    exact hm
  · rw [ha]
    exact hs

theorem reply_of_none (c : Call) (m : Memory) : reply ⟨c, m, none⟩ = (Memory.serve c m).1 := by
  unfold reply
  rw [show refusal ⟨c, m, none⟩ = none from ite_self none]

theorem after_of_none (c : Call) (m : Memory) : after ⟨c, m, none⟩ = (Memory.serve c m).2 := by
  unfold after
  rw [show refusal ⟨c, m, none⟩ = none from ite_self none]

end Exchange

/-- The program has ended. -/
def Program.isDone {κ : Type} {Reply : κ → Type} {α : Type} : Program Reply α → Bool
  | .done _ => true
  | .call _ _ => false

/-- Surroundings, the programs of the requests that were begun, and the calls that were made with
the number of the program, the latest first. -/
structure Pool where
  memory : Memory
  threads : List (Operation Report) := []
  history : List (Nat × Exchange) := []

/-- What can happen next in a pool. -/
inductive Move where
  /-- A program makes its next call. -/
  | step (i : Nat) (refused : Option Failure)
  | clock (t : Instant)
  | begin (r : Request)

namespace Pool

/-- Makes a move. -/
def move (s : Service) (P : Pool) : Move → Pool
  | .step i refused =>
    match P.threads[i]? with
    | some (.call c next) =>
      let x : Exchange := ⟨c, P.memory, refused⟩
      ⟨x.after, P.threads.set i (next x.reply), (i, x) :: P.history⟩
    | _ => P
  | .clock t => { P with memory := P.memory.clockAt t }
  | .begin r => { P with threads := P.threads ++ [s.perform r] }

/-- Makes moves one after another. -/
def play (s : Service) : List Move → Pool → Pool
  | [], P => P
  | a :: rest, P => play s rest (P.move s a)

/-- Every move is allowed in the pool in which it is made. -/
def admits (s : Service) (allowed : Pool → Move → Bool) : List Move → Pool → Bool
  | [], _ => true
  | a :: rest, P => allowed P a && admits s allowed rest (P.move s a)

/-- All programs have ended. -/
def isIdle (P : Pool) : Bool := P.threads.all Program.isDone

/-- The moves of requests for events and changes of the alert range that are served one after
another: the clock moves forward, and only while no program runs. -/
def oneAtATime (P : Pool) : Move → Bool
  | .step _ _ => true
  | .clock t => P.isIdle && decide (P.memory.clock.now ≤ t)
  | .begin (.activity _) | .begin (.heartbeat _) | .begin (.changeRange _ _) => P.isIdle
  | .begin _ => false

/-- The moves of events of a user that are served side by side, without failures: the clock moves
forward. -/
def sideBySide (user : String) (P : Pool) : Move → Bool
  | .step _ refused => refused.isNone
  | .clock t => decide (P.memory.clock.now ≤ t)
  | .begin (.activity u) | .begin (.heartbeat u) => u = user
  | .begin _ => false

variable {s : Service} {P : Pool}

theorem isDone_of_isIdle (h : P.isIdle = true) {i : Nat} {p : Operation Report}
    (hp : P.threads[i]? = some p) : p.isDone = true :=
  List.all_eq_true.1 h p (List.mem_of_getElem? hp)

theorem move_step_of_call {i : Nat} {refused : Option Failure} {c : Call}
    {next : Outcome c.Reply → Operation Report} (h : P.threads[i]? = some (.call c next)) :
    P.move s (.step i refused) =
      ⟨(⟨c, P.memory, refused⟩ : Exchange).after,
        P.threads.set i (next (⟨c, P.memory, refused⟩ : Exchange).reply),
        (i, ⟨c, P.memory, refused⟩) :: P.history⟩ := by
  simp only [move, h]

theorem move_step_of_not_call {i : Nat} {refused : Option Failure}
    (h : ∀ c next, P.threads[i]? ≠ some (.call c next)) : P.move s (.step i refused) = P := by
  cases hi : P.threads[i]? with
  | none => simp only [move, hi]
  | some p =>
      cases p with
      | done o => simp only [move, hi]
      | call c next => exact absurd hi (h c next)

/-- After a request has begun its program is the last one. -/
theorem getElem?_threads_begin {r : Request} {i : Nat} {p : Operation Report}
    (h : (P.move s (.begin r)).threads[i]? = some p) :
    P.threads[i]? = some p ∨ i = P.threads.length ∧ p = s.perform r := by
  have h' : (P.threads ++ [s.perform r])[i]? = some p := h
  rcases Nat.lt_or_ge i P.threads.length with hlt | hge
  · rw [List.getElem?_append_left hlt] at h'
    exact .inl h'
  · rw [List.getElem?_append_right hge, List.getElem?_singleton] at h'
    split at h'
    · rename_i hz
      exact .inr ⟨by omega, (Option.some.inj h').symm⟩
    · cases h'

/-! ## One after another -/

section Sequential

variable {τ : Type} {I : Memory × τ → Prop} {note : Exchange → τ → τ}
  {g : List (Nat × Exchange) → τ}

/-- The contract of backends that refuse any calls: a condition holds before every call. A note is
taken of what was called. -/
def refusing (I : Memory × τ → Prop) (note : Exchange → τ → τ) :
    Contract Call.Reply (Memory × τ) where
  allows _ σ := I σ
  answers c σ r σ' := ∃ refused, r = (⟨c, σ.1, refused⟩ : Exchange).reply ∧
    σ' = ((⟨c, σ.1, refused⟩ : Exchange).after, note ⟨c, σ.1, refused⟩ σ.2)

/-- The condition holds at every point of a program that keeps the contract. -/
theorem of_keeps_refusing {p : Operation Report} {σ : Memory × τ}
    (h : p.Keeps (refusing I note) (fun _ σ => I σ) σ) : I σ := by
  cases p with
  | done o => exact h
  | call c next => exact h.1

/-- At most one program runs, and it keeps the contract from here on. -/
structure Running (I : Memory × τ → Prop) (note : Exchange → τ → τ)
    (g : List (Nat × Exchange) → τ) (P : Pool) : Prop where
  holds : I (P.memory, g P.history)
  running : ∃ i : Nat,
    (∀ (j : Nat) (p : Operation Report), P.threads[j]? = some p → j ≠ i → p.isDone = true) ∧
    ∀ p : Operation Report, P.threads[i]? = some p →
      p.Keeps (refusing I note) (fun _ σ => I σ) (P.memory, g P.history)

theorem Running.of_isIdle (h : I (P.memory, g P.history)) (hi : P.isIdle = true) :
    Running I note g P := by
  refine ⟨h, 0, fun j p hp _ => isDone_of_isIdle hi hp, fun p hp => ?_⟩
  have hd := isDone_of_isIdle hi hp
  cases p with
  | done o => exact h
  | call c next => cases hd

theorem Running.step (hg : ∀ i x h, g ((i, x) :: h) = note x (g h)) (h : Running I note g P)
    (i : Nat) (refused : Option Failure) : Running I note g (P.move s (.step i refused)) := by
  obtain ⟨hI, k, hdone, hkeeps⟩ := h
  by_cases hc : ∃ c next, P.threads[i]? = some (.call c next)
  · obtain ⟨c, next, hi⟩ := hc
    -- the program that makes a call is the one that runs
    have hik : i = k := by
      by_contra hne
      have := hdone i _ hi hne
      cases this
    subst hik
    have hk := hkeeps _ hi
    have hn := hk.2 _ _ ⟨refused, rfl, rfl⟩
    rw [move_step_of_call hi]
    -- it may go on: the other programs have not changed
    refine ⟨?_, i, fun j p hp hj => ?_, fun p hp => ?_⟩
    · rw [hg]
      exact of_keeps_refusing hn
    · rw [List.getElem?_set_ne fun e => hj e.symm] at hp
      exact hdone j p hp hj
    · have hlt : i < P.threads.length := (List.getElem?_eq_some_iff.1 hi).1
      rw [List.getElem?_set_self hlt, Option.some.injEq] at hp
      rw [hg, ← hp]
      exact hn
  · rw [move_step_of_not_call fun c next h => hc ⟨c, next, h⟩]
    exact ⟨hI, k, hdone, hkeeps⟩

/-- Requests begin only while no program runs. -/
theorem isIdle_of_begin {r : Request} (h : P.oneAtATime (.begin r) = true) : P.isIdle = true := by
  cases r with
  | activity u => exact h
  | heartbeat u => exact h
  | changeRange u range => exact h
  | resolve u => cases h
  | liveAccrual u => cases h
  | knownBuckets => cases h
  | scan job => cases h

theorem Running.begin {r : Request} (h : I (P.memory, g P.history)) (hi : P.isIdle = true)
    (hr : (s.perform r).Keeps (refusing I note) (fun _ σ => I σ) (P.memory, g P.history)) :
    Running I note g (P.move s (.begin r)) := by
  -- the new program is the one that runs
  refine ⟨h, P.threads.length, fun j p hp hj => ?_, fun p hp => ?_⟩
  · rcases getElem?_threads_begin hp with hp | ⟨he, -⟩
    · exact isDone_of_isIdle hi hp
    · exact absurd he hj
  · rcases getElem?_threads_begin hp with hp | ⟨-, rfl⟩
    · exact absurd (List.getElem?_eq_some_iff.1 hp).1 (Nat.lt_irrefl _)
    · exact hr

/-- What the programs of requests keep by themselves holds at every point of a run of requests one
after another. -/
theorem play_sequential (hg : ∀ i x h, g ((i, x) :: h) = note x (g h))
    (hclock : ∀ m e t, I (m, e) → m.clock.now ≤ t → I (m.clockAt t, e))
    (hbegin : ∀ P r σ, oneAtATime P (.begin r) = true → I σ →
      (s.perform r).Keeps (refusing I note) (fun _ σ => I σ) σ)
    (as : List Move) (h : Running I note g P) (ha : P.admits s oneAtATime as = true) :
    I ((P.play s as).memory, g (P.play s as).history) := by
  -- the induction is on the moves; what holds at a point is carried by `Running`
  induction as generalizing P with
  | nil => exact h.holds
  | cons a rest ih =>
      obtain ⟨ha, hr⟩ := Bool.and_eq_true_iff.1 ha
      refine ih ?_ hr
      cases a with
      | step i refused => exact h.step hg i refused
      | clock t =>
          obtain ⟨hi, ht⟩ := Bool.and_eq_true_iff.1 ha
          exact .of_isIdle (hclock _ _ t h.holds (of_decide_eq_true ht)) hi
      | begin r => exact .begin h.holds (isIdle_of_begin ha) (hbegin P r _ ha h.holds)

end Sequential

/-! ## Side by side -/

section Concurrent

variable {K : Nat → Contract Call.Reply (List Exchange)}
  {J : Memory → List (Nat × Exchange) → Prop}
  {R : Nat → Outcome Report → List Exchange → Prop}

/-- The calls of one program among all calls, the latest first. -/
def ownCalls (i : Nat) (h : List (Nat × Exchange)) : List Exchange :=
  (h.filter fun x => x.1 = i).map (·.2)

theorem ownCalls_cons_self (i : Nat) (x : Exchange) (h : List (Nat × Exchange)) :
    ownCalls i ((i, x) :: h) = x :: ownCalls i h := by
  unfold ownCalls
  rw [List.filter_cons_of_pos (by simp), List.map_cons]

theorem ownCalls_cons_of_ne {i j : Nat} (hne : i ≠ j) (x : Exchange)
    (h : List (Nat × Exchange)) : ownCalls j ((i, x) :: h) = ownCalls j h := by
  unfold ownCalls
  rw [List.filter_cons_of_neg (by simpa using hne)]

/-- A program that has made none of the calls has no calls of its own. -/
theorem ownCalls_eq_nil {h : List (Nat × Exchange)} {n : Nat} (hn : ∀ x ∈ h, x.1 ≠ n) :
    ownCalls n h = [] := by
  unfold ownCalls
  rw [List.map_eq_nil_iff, List.filter_eq_nil_iff]
  exact fun x hx he => hn x hx (of_decide_eq_true he)

/-- Every program keeps its own contract from here on, given its own calls so far. What the programs
do together is in the books. -/
structure Abiding (K : Nat → Contract Call.Reply (List Exchange))
    (J : Memory → List (Nat × Exchange) → Prop)
    (R : Nat → Outcome Report → List Exchange → Prop) (P : Pool) : Prop where
  books : J P.memory P.history
  keeps : ∀ (i : Nat) (p : Operation Report), P.threads[i]? = some p →
    p.Keeps (K i) (R i) (ownCalls i P.history)
  known : ∀ x ∈ P.history, x.1 < P.threads.length

/-- What is to be shown of a call that the contract of a program allows: the contract covers its
reply, and the books are kept. -/
def Honours (K : Nat → Contract Call.Reply (List Exchange))
    (J : Memory → List (Nat × Exchange) → Prop) (i : Nat) (refused : Option Failure) : Prop :=
  ∀ (c : Call) (m : Memory) (h : List (Nat × Exchange)), (K i).allows c (ownCalls i h) → J m h →
    (K i).answers c (ownCalls i h) (⟨c, m, refused⟩ : Exchange).reply
        (⟨c, m, refused⟩ :: ownCalls i h) ∧
      J (⟨c, m, refused⟩ : Exchange).after ((i, ⟨c, m, refused⟩) :: h)

theorem Abiding.init {m : Memory} (h : J m []) : Abiding K J R ⟨m, [], []⟩ :=
  ⟨h, fun _ _ hp => (nomatch hp), fun _ hx => (nomatch hx)⟩

theorem Abiding.step {i : Nat} {refused : Option Failure} (hs : Honours K J i refused)
    (h : Abiding K J R P) : Abiding K J R (P.move s (.step i refused)) := by
  by_cases hc : ∃ c next, P.threads[i]? = some (.call c next)
  · obtain ⟨c, next, hi⟩ := hc
    have hk := h.keeps i _ hi
    have hlt : i < P.threads.length := (List.getElem?_eq_some_iff.1 hi).1
    obtain ⟨ha, hj⟩ := hs c P.memory P.history hk.1 h.books
    rw [move_step_of_call hi]
    refine ⟨hj, fun j p hp => ?_, fun x hx => ?_⟩
    · -- only the program that made the call knows more
      by_cases hij : i = j
      · subst hij
        rw [List.getElem?_set_self hlt, Option.some.injEq] at hp
        rw [← hp, ownCalls_cons_self]
        exact hk.2 _ _ ha
      · rw [List.getElem?_set_ne hij] at hp
        rw [ownCalls_cons_of_ne hij]
        exact h.keeps j p hp
    · rw [List.length_set]
      rcases List.mem_cons.1 hx with rfl | hx
      · exact hlt
      · exact h.known x hx
  · rw [move_step_of_not_call fun c next h => hc ⟨c, next, h⟩]
    exact h

theorem Abiding.begin {r : Request} (h : Abiding K J R P)
    (hr : (s.perform r).Keeps (K P.threads.length) (R P.threads.length) []) :
    Abiding K J R (P.move s (.begin r)) := by
  refine ⟨h.books, fun i p hp => ?_, fun x hx => ?_⟩
  · rcases getElem?_threads_begin hp with hp | ⟨rfl, rfl⟩
    · exact h.keeps i p hp
    · have hn : ownCalls P.threads.length P.history = [] :=
        ownCalls_eq_nil fun x hx => Nat.ne_of_lt (h.known x hx)
      show (s.perform r).Keeps _ _ (ownCalls P.threads.length P.history)
      rw [hn]
      exact hr
  · have := h.known x hx
    show x.1 < (P.threads ++ [s.perform r]).length
    rw [List.length_append, List.length_singleton]
    omega

/-- What programs keep whatever the others do holds at every point of a run. -/
theorem play_abiding {allowed : Pool → Move → Bool}
    (hstep : ∀ P i refused, allowed P (.step i refused) = true → Honours K J i refused)
    (hclock : ∀ P t, allowed P (.clock t) = true → J P.memory P.history →
      J (P.memory.clockAt t) P.history)
    (hbegin : ∀ P r, allowed P (.begin r) = true →
      (s.perform r).Keeps (K P.threads.length) (R P.threads.length) [])
    (as : List Move) (h : Abiding K J R P) (ha : P.admits s allowed as = true) :
    Abiding K J R (P.play s as) := by
  -- the induction is on the moves; what holds at a point is carried by `Abiding`
  induction as generalizing P with
  | nil => exact h
  | cons a rest ih =>
      obtain ⟨ha, hr⟩ := Bool.and_eq_true_iff.1 ha
      refine ih ?_ hr
      cases a with
      | step i refused => exact h.step (hstep P i refused ha)
      | clock t => exact ⟨hclock P t ha h.books, h.keeps, h.known⟩
      | begin r => exact h.begin (hbegin P r ha)

end Concurrent

/-! ## Events side by side -/

section Events

variable {E : Memory → Prop} {J : Memory → List (Nat × Exchange) → Prop}
  {allows : Call → List Exchange → Prop} {Q : Outcome Report → List Exchange → Prop}
  {user : String}

/-- The contract of surroundings in which others make calls as well: all that is known of them when
a call is made is a condition. A program knows its own calls. -/
def serving (E : Memory → Prop) (allows : Call → List Exchange → Prop) :
    Contract Call.Reply (List Exchange) where
  allows c xs := allows c xs
  answers c xs r xs' := ∃ m, E m ∧ r = (Memory.serve c m).1 ∧ xs' = ⟨c, m, none⟩ :: xs

/-- Every program keeps the contract from here on, given its own calls so far. -/
structure Working (E : Memory → Prop) (J : Memory → List (Nat × Exchange) → Prop)
    (allows : Call → List Exchange → Prop) (Q : Outcome Report → List Exchange → Prop) (P : Pool) :
    Prop where
  holds : E P.memory
  books : J P.memory P.history
  keeps : ∀ (i : Nat) (p : Operation Report), P.threads[i]? = some p →
    p.Keeps (serving E allows) Q (ownCalls i P.history)
  known : ∀ x ∈ P.history, x.1 < P.threads.length

/-- That programs work is that all of them abide by the one contract. -/
theorem working_iff : Working E J allows Q P ↔
    Abiding (fun _ => serving E allows) (fun m h => E m ∧ J m h) (fun _ => Q) P :=
  ⟨fun h => ⟨⟨h.holds, h.books⟩, h.keeps, h.known⟩,
    fun h => ⟨h.books.1, h.books.2, h.keeps, h.known⟩⟩

/-- What programs keep whatever the others do holds at every point of a run of events side by
side. -/
theorem play_concurrent (hE : ∀ c xs m, allows c xs → E m → E (Memory.serve c m).2)
    (hJ : ∀ i c m h, allows c (ownCalls i h) → E m → J m h →
      J (Memory.serve c m).2 ((i, ⟨c, m, none⟩) :: h))
    (hclock : ∀ m t, E m → m.clock.now ≤ t → E (m.clockAt t))
    (hclockJ : ∀ m h t, J m h → J (m.clockAt t) h)
    (hbegin : ∀ P r, sideBySide user P (.begin r) = true →
      (s.perform r).Keeps (serving E allows) Q [])
    (as : List Move) (h : Working E J allows Q P)
    (ha : P.admits s (sideBySide user) as = true) : Working E J allows Q (P.play s as) := by
  refine working_iff.2 (play_abiding (fun P i refused hr => ?_) (fun P t ht hb => ?_)
    (fun P r hr => hbegin P r hr) as (working_iff.1 h) ha)
  · -- no call is refused
    obtain rfl := Option.isNone_iff_eq_none.1 hr
    intro c m h hc hb
    rw [Exchange.after_of_none]
    exact ⟨⟨m, hb.1, Exchange.reply_of_none c m, rfl⟩, hE c _ m hc hb.1,
      hJ i c m h hc hb.1 hb.2⟩
  · exact ⟨hclock _ t hb.1 (of_decide_eq_true ht), hclockJ _ _ t hb.2⟩

end Events

end Pool

end Presence
