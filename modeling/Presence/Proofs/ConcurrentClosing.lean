import Mathlib.Algebra.BigOperators.Group.Finset.Piecewise
import Presence.Proofs.Interleaving
import Presence.Proofs.Totals

/-!
# Events of a user side by side

An event that closes a session writes the score that it has read, and sets the score to zero in
another call. Between the two calls another event can do the same with the same score. The seconds
that are written are therefore bounded by the accrued ones up to an excess: what the closing events
have read, less what they have set to zero. Main statement: `Service.flushed_le_iff_excess_le`, the
bound holds exactly if the excess is at most the score that is left, which it is if nobody sets the
score to zero between the two calls of a closing event.
-/

set_option autoImplicit false

namespace Presence

/-! ## Sums over calls -/

/-- The sum of a quantity over the calls of a program, the latest first. The quantity may depend on
the calls before. -/
def sumCalls (d : Exchange → List Exchange → Int) : List Exchange → Int
  | [] => 0
  | x :: rest => d x rest + sumCalls d rest

namespace Pool

/-- The sum of a quantity over the calls of all programs. The quantity may depend on the calls
before of the same program. -/
def sumHistory (d : Exchange → List Exchange → Int) : List (Nat × Exchange) → Int
  | [] => 0
  | (i, x) :: rest => d x (ownCalls i rest) + sumHistory d rest

/-- The sum over all calls is that of the sums over the calls of each program. -/
theorem sum_sumCalls (d : Exchange → List Exchange → Int) {n : Nat} {h : List (Nat × Exchange)}
    (hn : ∀ x ∈ h, x.1 < n) :
    ∑ i ∈ Finset.range n, sumCalls d (ownCalls i h) = sumHistory d h := by
  induction h with
  | nil => exact Finset.sum_const_zero
  | cons y rest ih =>
      obtain ⟨i, x⟩ := y
      have hi : i ∈ Finset.range n := Finset.mem_range.2 (hn (i, x) List.mem_cons_self)
      -- the call counts for the program that made it only
      have hstep : ∀ j ∈ Finset.range n, sumCalls d (ownCalls j ((i, x) :: rest)) =
          (if j = i then d x (ownCalls i rest) else 0) + sumCalls d (ownCalls j rest) := by
        intro j _
        by_cases hj : j = i
        · subst hj
          rw [ownCalls_cons_self, if_pos rfl]
          rfl
        · rw [ownCalls_cons_of_ne fun e => hj e.symm, if_neg hj, Int.zero_add]
      rw [Finset.sum_congr rfl hstep, Finset.sum_add_distrib, Finset.sum_ite_eq', if_pos hi,
        ih fun y hy => hn y (List.mem_cons_of_mem _ hy)]
      rfl

theorem sumHistory_sub (d e : Exchange → List Exchange → Int) (h : List (Nat × Exchange)) :
    sumHistory (fun x xs => d x xs - e x xs) h = sumHistory d h - sumHistory e h := by
  induction h with
  | nil => rfl
  | cons y rest ih =>
      simp only [sumHistory, ih]
      omega

end Pool

/-! ## How programs end -/

/-- What an event did to the session, if the program is that of an event and has ended with a
value. -/
def Program.accrual? : Operation Report → Option Accrual
  | .done (.ok (.accrual a)) => some a
  | _ => none

namespace Pool

/-- All programs have ended, those of events, and none with a failure or a crash. -/
def isAnswered (P : Pool) : Bool := P.threads.all fun p => p.accrual?.isSome

/-- The sum of a quantity over the events that have ended with a value. -/
def sumEnds (f : Accrual → Int) (P : Pool) : Int :=
  (P.threads.map fun p => p.accrual?.elim 0 f).sum

/-- The seconds that the events have moved to the daily statistics. -/
def flushed (P : Pool) : Int := P.sumEnds Accrual.flushed

/-- The seconds that the events have added to the accrued time. -/
def gained (P : Pool) : Int := P.sumEnds Accrual.gained

variable {P : Pool}

/-- A quantity that every event has in its calls is in all calls together. -/
theorem sumEnds_eq_sumHistory {f : Accrual → Int} {d : Exchange → List Exchange → Int}
    (hn : ∀ x ∈ P.history, x.1 < P.threads.length)
    (hf : ∀ (i : Nat) (p : Operation Report), P.threads[i]? = some p →
      p.accrual?.elim 0 f = sumCalls d (ownCalls i P.history)) :
    P.sumEnds f = sumHistory d P.history := by
  rw [← sum_sumCalls d hn]
  have he : (P.threads.map fun p => p.accrual?.elim 0 f) =
      (List.range P.threads.length).map fun i => sumCalls d (ownCalls i P.history) := by
    refine List.ext_getElem (by rw [List.length_map, List.length_map, List.length_range]) ?_
    intro i h1 h2
    rw [List.getElem_map, List.getElem_map, List.getElem_range]
    exact hf i _ (List.getElem?_eq_getElem _)
  unfold sumEnds
  rw [he]
  rfl

end Pool

/-! ## What a call does to a score and to the daily statistics -/

namespace Exchange

variable (set user : String)

/-- The score of a user in a set before the call. -/
def score (x : Exchange) : Int := x.before.store.getScore set user

/-- A call that reads the score. -/
def isRead (x : Exchange) : Bool :=
  match x.call with
  | .store (.getScore set' user') => set' = set && user' = user
  | _ => false

/-- A call that sets the score to zero. -/
def isReset (x : Exchange) : Bool :=
  match x.call with
  | .store (.setScore set' user' value) => set' = set && user' = user && value = 0
  | _ => false

/-- The seconds that the call has added to the score. -/
def gain (x : Exchange) : Int :=
  match x.call with
  | .store (.incrScore set' user' delta) =>
    if set' = set && user' = user && x.reply.isOk then delta else 0
  | _ => 0

/-- The seconds that the call has set to zero. -/
def taken (x : Exchange) : Int := if x.isReset set user then x.score set user else 0

/-- The seconds that the call has added to the daily statistics of the user. -/
def spent (x : Exchange) : Int :=
  match x.call with
  | .ledger (.add user' _ seconds) => if user' = user && x.reply.isOk then seconds else 0
  | _ => 0

/-- What a program has read last of the score. -/
def lastRead : List Exchange → Int
  | [] => 0
  | x :: rest => if x.isRead set user then x.score set user else lastRead rest

/-- What a program that sets the score to zero has read of it before. -/
def closed (x : Exchange) (xs : List Exchange) : Int :=
  if x.isReset set user then lastRead set user xs else 0

/-- What a program that sets the score to zero has read of it before, less what stands there. -/
def excess (x : Exchange) (xs : List Exchange) : Int := x.closed set user xs - x.taken set user

/-- A call that neither reads nor changes the score nor the daily statistics. -/
structure IsSilent (x : Exchange) : Prop where
  isRead : x.isRead set user = false
  isReset : x.isReset set user = false
  spent : x.spent user = 0
  gain : x.gain set user = 0

section Sums

variable {set user} {day : String} {n : Int} {m m' : Memory}

theorem gain_of_ok {sum : Int}
    (h : Memory.serve (.store (.incrScore set user n)) m = (.ok sum, m')) :
    gain set user ⟨.store (.incrScore set user n), m, none⟩ = n := by
  apply if_pos
  simp [reply_of_none, h, Outcome.isOk]

theorem gain_of_crashed {c : Crash}
    (h : Memory.serve (.store (.incrScore set user n)) m = (.crashed c, m')) :
    gain set user ⟨.store (.incrScore set user n), m, none⟩ = 0 := by
  apply if_neg
  simp [reply_of_none, h, Outcome.isOk]

theorem spent_of_ok (h : Memory.serve (.ledger (.add user day n)) m = (.ok (), m')) :
    spent user ⟨.ledger (.add user day n), m, none⟩ = n := by
  apply if_pos
  simp [reply_of_none, h, Outcome.isOk]

theorem spent_of_crashed {c : Crash}
    (h : Memory.serve (.ledger (.add user day n)) m = (.crashed c, m')) :
    spent user ⟨.ledger (.add user day n), m, none⟩ = 0 := by
  apply if_neg
  simp [reply_of_none, h, Outcome.isOk]

end Sums

theorem isReset_of_isRead {x : Exchange} (h : x.isRead set user = true) :
    x.isReset set user = false := by
  unfold isRead at h
  unfold isReset
  split at h
  · rename_i hc
    rw [hc]
  · cases h

end Exchange

namespace Pool

variable (set user : String)

/-- Since a program has read the score, no program has set it to zero. -/
def quietSince (i : Nat) : List (Nat × Exchange) → Bool
  | [] => true
  | (j, x) :: rest =>
    (j = i && x.isRead set user) || (!x.isReset set user && quietSince i rest)

/-- Whenever a program has set the score to zero, none had done so since that program had read the
score. -/
def undisturbed : List (Nat × Exchange) → Bool
  | [] => true
  | (i, x) :: rest =>
    (!x.isReset set user || quietSince set user i rest) && undisturbed rest

/-- What the closing events have read of the score, less what they have set to zero. -/
def excess (P : Pool) : Int := sumHistory (Exchange.excess set user) P.history

end Pool

namespace Service

open Operation Program

/-- From now on the alert range of a user can be read in the presence store, and the accrued time is
not negative. -/
structure Steady (s : Service) (user : String) (r : Int) (m : Memory) : Prop where
  cached : ∀ t, m.clock.now ≤ t →
    cachedRange? (m.store.getString t (s.keys.alertRange user)) = some r
  score_nonneg : 0 ≤ m.store.getScore (s.keys.accrualSet r) user

/-- The calls that the events of a user make while the alert range can be read. -/
inductive EventCall (s : Service) (user : String) (r : Int) : Call → Prop
  | now : EventCall s user r .now
  | count (c : Counter) (n : Nat) : EventCall s user r (.count c n)
  | getString (key : String) : EventCall s user r (.store (.getString key))
  | getScore : EventCall s user r (.store (.getScore (s.keys.accrualSet r) user))
  | mark (text : String) (ttl : Option Nat) :
      EventCall s user r (.store (.setString (s.keys.sessionMarker user) text ttl))
  | reset : EventCall s user r (.store (.setScore (s.keys.accrualSet r) user 0))
  | extend (gap : Int) (h : 0 < gap) :
      EventCall s user r (.store (.incrScore (s.keys.accrualSet r) user gap))
  | add (day : String) (n : Int) : EventCall s user r (.ledger (.add user day n))

section Effects

variable {s : Service} {user : String} {r : Int} {c : Call} {m : Memory}

/-- What a call of an event does to the score and to the daily statistics. -/
structure Effect (set user : String) (x : Exchange) (m' : Memory) : Prop where
  gain_nonneg : 0 ≤ x.gain set user
  score : m'.store.getScore set user + x.taken set user = x.score set user + x.gain set user
  spent : m'.ledger.spent user = x.before.ledger.spent user + x.spent user

theorem EventCall.effect (hc : s.EventCall user r c) (m : Memory) :
    Effect (s.keys.accrualSet r) user ⟨c, m, none⟩ (Memory.serve c m).2 := by
  cases hc with
  | now => exact ⟨Int.le_refl 0, rfl, (Int.add_zero _).symm⟩
  | count c n => exact ⟨Int.le_refl 0, rfl, (Int.add_zero _).symm⟩
  | getString key => exact ⟨Int.le_refl 0, rfl, (Int.add_zero _).symm⟩
  | getScore => exact ⟨Int.le_refl 0, rfl, (Int.add_zero _).symm⟩
  | mark text ttl =>
      have hs := m.store.setString_facts m.clock.now (s.keys.sessionMarker user) text ttl
        (Keys.sessionMarker_ne_alertRange user user).symm
      refine ⟨Int.le_refl 0, ?_, (Int.add_zero _).symm⟩
      show (m.store.setString m.clock.now _ text ttl).2.getScore _ _ + 0 = m.store.getScore _ _ + 0
      unfold Store.getScore Store.members
      rw [hs.1]
  | reset =>
      refine ⟨Int.le_refl 0, ?_, (Int.add_zero _).symm⟩
      -- the whole score is taken
      have ht : Exchange.taken (s.keys.accrualSet r) user
          ⟨.store (.setScore (s.keys.accrualSet r) user 0), m, none⟩ =
            m.store.getScore (s.keys.accrualSet r) user := if_pos (by simp [Exchange.isReset])
      rw [ht]
      show (m.store.setScore _ _ 0).getScore _ _ + _ = m.store.getScore _ _ + 0
      rw [Store.getScore_setScore, if_pos ⟨rfl, rfl⟩]
      omega
  | extend gap h0 =>
      rcases m.serve_incrScore (s.keys.accrualSet r) user gap with hr | hr
      · -- the sum fits, and the gap is gained
        have hg := Exchange.gain_of_ok hr
        rw [hr]
        refine ⟨by omega, ?_, (Int.add_zero _).symm⟩
        rw [hg]
        show (m.store.setScore _ _ _).getScore _ _ + 0 = m.store.getScore _ _ + gap
        rw [Store.getScore_setScore, if_pos ⟨rfl, rfl⟩, Int.add_zero]
      · -- the sum does not fit, and nothing is gained
        have hg := Exchange.gain_of_crashed hr
        rw [hr]
        refine ⟨by omega, ?_, (Int.add_zero _).symm⟩
        rw [hg]
        rfl
  | add day n =>
      rcases m.serve_addSpent user day n with ⟨hr, he⟩ | hr
      · rw [hr]
        refine ⟨Int.le_refl 0, rfl, ?_⟩
        rw [Exchange.spent_of_ok hr]
        exact he
      · rw [hr]
        refine ⟨Int.le_refl 0, rfl, ?_⟩
        rw [Exchange.spent_of_crashed hr]
        exact (Int.add_zero _).symm

theorem EventCall.steady (hc : s.EventCall user r c) (h : s.Steady user r m) :
    s.Steady user r (Memory.serve c m).2 := by
  cases hc with
  | now => exact h
  | count c n => exact ⟨h.cached, h.score_nonneg⟩
  | getString key => exact h
  | getScore => exact h
  | add day n => exact ⟨h.cached, h.score_nonneg⟩
  | mark text ttl =>
      have hs := m.store.setString_facts m.clock.now (s.keys.sessionMarker user) text ttl
        (Keys.sessionMarker_ne_alertRange user user).symm
      refine ⟨fun t ht => ?_, ?_⟩
      · show cachedRange? ((m.store.setString m.clock.now _ text ttl).2.getString t _) = _
        unfold Store.getString
        rw [hs.2]
        exact h.cached t ht
      · show 0 ≤ (m.store.setString m.clock.now _ text ttl).2.getScore _ _
        unfold Store.getScore Store.members
        rw [hs.1]
        exact h.score_nonneg
  | reset =>
      refine ⟨h.cached, ?_⟩
      show 0 ≤ (m.store.setScore _ _ 0).getScore _ _
      rw [Store.getScore_setScore, if_pos ⟨rfl, rfl⟩]
  | extend gap h0 =>
      rcases m.serve_incrScore (s.keys.accrualSet r) user gap with hr | hr
      · rw [hr]
        refine ⟨h.cached, ?_⟩
        show 0 ≤ (m.store.setScore _ _ _).getScore _ _
        rw [Store.getScore_setScore, if_pos ⟨rfl, rfl⟩]
        exact Int.add_nonneg h.score_nonneg (Int.le_of_lt h0)
      · rw [hr]
        exact h

end Effects

/-! ## What all calls of the events have done -/

/-- The score and the daily statistics are what the calls of events have made of them, and a reading
that nobody has disturbed is covered by the score. -/
structure Accurate (set user : String) (score₀ spent₀ : Int) (m : Memory)
    (h : List (Nat × Exchange)) : Prop where
  score : m.store.getScore set user + Pool.sumHistory (fun x _ => x.taken set user) h =
    score₀ + Pool.sumHistory (fun x _ => x.gain set user) h
  spent : m.ledger.spent user = spent₀ + Pool.sumHistory (fun x _ => x.spent user) h
  quiet : ∀ i, Pool.quietSince set user i h = true →
    Exchange.lastRead set user (Pool.ownCalls i h) ≤ m.store.getScore set user
  excess : Pool.undisturbed set user h = true →
    Pool.sumHistory (Exchange.excess set user) h ≤ 0

section Books

variable {s : Service} {user : String} {r : Int} {c : Call} {m : Memory}
  {set : String} {score₀ spent₀ : Int} {h : List (Nat × Exchange)}

theorem Accurate.nil (hm : 0 ≤ m.store.getScore set user) :
    Accurate set user (m.store.getScore set user) (m.ledger.spent user) m [] :=
  ⟨rfl, (Int.add_zero _).symm, fun _ _ => hm, fun _ => Int.le_refl 0⟩

/-- A call that does not set the score to zero leaves at least what was there. -/
theorem Effect.score_le {x : Exchange} {m' : Memory} (he : Effect set user x m')
    (hx : x.isReset set user = false) : x.score set user ≤ m'.store.getScore set user := by
  have h1 := he.score
  have h2 := he.gain_nonneg
  have ht : x.taken set user = 0 := if_neg (by rw [hx]; exact Bool.false_ne_true)
  omega

theorem Accurate.cons {x : Exchange} {m' : Memory} (he : Effect set user x m')
    (hb : Accurate set user score₀ spent₀ x.before h) (i : Nat) :
    Accurate set user score₀ spent₀ m' ((i, x) :: h) := by
  refine ⟨?_, ?_, fun j hj => ?_, fun hu => ?_⟩
  · have h1 : x.score set user + _ = _ := hb.score
    have h2 := he.score
    simp only [Pool.sumHistory]
    omega
  · have h1 := hb.spent
    have h2 := he.spent
    simp only [Pool.sumHistory]
    omega
  · rcases Bool.or_eq_true_iff.1 hj with hj | hj
    · -- the program has just read the score
      obtain ⟨hij, hread⟩ := Bool.and_eq_true_iff.1 hj
      obtain rfl := of_decide_eq_true hij
      rw [Pool.ownCalls_cons_self]
      unfold Exchange.lastRead
      rw [if_pos hread]
      exact he.score_le (Exchange.isReset_of_isRead set user hread)
    · obtain ⟨hx, hq⟩ := Bool.and_eq_true_iff.1 hj
      -- no reset, so the score is at least what it was
      have hle := he.score_le (by simpa using hx)
      by_cases hij : i = j
      · subst hij
        rw [Pool.ownCalls_cons_self]
        unfold Exchange.lastRead
        split
        · exact hle
        · exact (hb.quiet i hq).trans hle
      · rw [Pool.ownCalls_cons_of_ne hij]
        exact (hb.quiet j hq).trans hle
  · obtain ⟨hx, hu⟩ := Bool.and_eq_true_iff.1 hu
    have h1 := hb.excess hu
    -- a reset that nobody has disturbed finds at least what its program has read
    have h2 : x.excess set user (Pool.ownCalls i h) ≤ 0 := by
      unfold Exchange.excess Exchange.closed Exchange.taken
      cases hr : x.isReset set user with
      | false => exact Int.le_refl 0
      | true =>
          rw [hr] at hx
          have h3 : Exchange.lastRead set user (Pool.ownCalls i h) ≤ x.score set user :=
            hb.quiet i hx
          rw [if_pos rfl, if_pos rfl]
          omega
    simp only [Pool.sumHistory]
    omega

end Books

/-! ## What one event does by itself -/

/-- What a program knows of its own calls: the score that it has read last, and the seconds that it
has closed, spent and gained. -/
structure Log (set user : String) (read closed spent gained : Int) (xs : List Exchange) : Prop where
  read : Exchange.lastRead set user xs = read
  closed : sumCalls (Exchange.closed set user) xs = closed
  spent : sumCalls (fun x _ => x.spent user) xs = spent
  gained : sumCalls (fun x _ => x.gain set user) xs = gained

section Events

variable {α β : Type} {s : Service} {user : String} {r : Int} {c : Call} {m : Memory}
  {xs : List Exchange} {read closed spent gained : Int}

theorem Log.cons {set : String} {x : Exchange} {read' closed' spent' gained' : Int}
    (h : Log set user read closed spent gained xs)
    (hread : (if x.isRead set user then x.score set user else read) = read')
    (hclosed : closed + (if x.isReset set user then read else 0) = closed')
    (hspent : spent + x.spent user = spent') (hgained : gained + x.gain set user = gained') :
    Log set user read' closed' spent' gained' (x :: xs) := by
  obtain ⟨rfl, rfl, rfl, rfl⟩ := h
  subst hread hclosed hspent hgained
  exact ⟨rfl, Int.add_comm _ _, Int.add_comm _ _, Int.add_comm _ _⟩

/-- Whatever others do meanwhile, a program makes the calls of an event only, and if it ends with a
value then as stated. -/
def Heeds (s : Service) (user : String) (r : Int) (p : Operation α)
    (F : α → List Exchange → Prop) (xs : List Exchange) : Prop :=
  p.Keeps (Pool.serving (s.Steady user r) fun c _ => s.EventCall user r c)
    (fun o xs => ∀ a, o = .ok a → F a xs) xs

variable {F : α → List Exchange → Prop} {G : β → List Exchange → Prop}

theorem heeds_pure {a : α} (h : F a xs) : s.Heeds user r (pure a) F xs := meets_pure h

theorem Heeds.bind {p : Operation α} {f : α → Operation β} (hp : s.Heeds user r p F xs)
    (hf : ∀ a ys, F a ys → s.Heeds user r (f a) G ys) : s.Heeds user r (p >>= f) G xs :=
  Meets.bind hp hf

theorem heeds_of {F : c.Reply → List Exchange → Prop} (hc : s.EventCall user r c)
    (hF : ∀ a m, s.Steady user r m → (Memory.serve c m).1 = .ok a → F a (⟨c, m, none⟩ :: xs)) :
    s.Heeds user r (of c) F xs := by
  refine meets_ask hc ?_
  rintro a ys ⟨m, hm, ha, rfl⟩
  exact hF a m hm ha.symm

theorem heeds_silent (hc : s.EventCall user r c)
    (hx : ∀ m, Exchange.IsSilent (s.keys.accrualSet r) user ⟨c, m, none⟩)
    (h : Log (s.keys.accrualSet r) user read closed spent gained xs) :
    s.Heeds user r (of c) (fun _ ys =>
      Log (s.keys.accrualSet r) user read closed spent gained ys) xs := by
  refine heeds_of hc fun _ m _ _ => h.cons ?_ ?_ ?_ ?_
  · rw [(hx m).isRead, if_neg Bool.false_ne_true]
  · rw [(hx m).isReset, if_neg Bool.false_ne_true, Int.add_zero]
  · rw [(hx m).spent, Int.add_zero]
  · rw [(hx m).gain, Int.add_zero]

theorem heeds_resolve (h : Log (s.keys.accrualSet r) user read closed spent gained xs) :
    s.Heeds user r (s.resolve user) (fun b ys => b = r ∧
      Log (s.keys.accrualSet r) user read closed spent gained ys) xs := by
  refine (heeds_of (.getString _) (F := fun text ys => cachedRange? text = some r ∧
    Log (s.keys.accrualSet r) user read closed spent gained ys) ?_).bind ?_
  · rintro text m hm ⟨⟩
    exact ⟨hm.cached _ (Int.le_refl _), h.cons rfl (Int.add_zero _) (Int.add_zero _)
      (Int.add_zero _)⟩
  · rintro text ys ⟨ht, hl⟩
    rw [ht]
    exact heeds_pure ⟨rfl, hl⟩

theorem heeds_getScore (h : Log (s.keys.accrualSet r) user read closed spent gained xs) :
    s.Heeds user r (getScore (s.keys.accrualSet r) user) (fun n ys => 0 ≤ n ∧
      Log (s.keys.accrualSet r) user n closed spent gained ys) xs := by
  refine heeds_of .getScore ?_
  rintro n m hm ⟨⟩
  exact ⟨hm.score_nonneg, h.cons (if_pos (by simp [Exchange.isRead])) (Int.add_zero _)
    (Int.add_zero _) (Int.add_zero _)⟩

theorem heeds_flush {n : Int} {day : String}
    (h : Log (s.keys.accrualSet r) user read closed spent gained xs) :
    s.Heeds user r (flush user n day) (fun _ ys =>
      Log (s.keys.accrualSet r) user read closed (spent + n) gained ys) xs := by
  refine (heeds_of (.add day n) (F := fun _ ys =>
    Log (s.keys.accrualSet r) user read closed (spent + n) gained ys) ?_).bind fun _ ys hl => ?_
  · intro a m hm ha
    have hp := Exchange.spent_of_ok (Prod.ext ha rfl)
    exact h.cons rfl (Int.add_zero _) (by rw [hp]) (Int.add_zero _)
  · refine (heeds_silent (.count _ _) (fun _ => ⟨rfl, rfl, rfl, rfl⟩) hl).bind fun _ zs hl => ?_
    exact heeds_silent (.count _ _) (fun _ => ⟨rfl, rfl, rfl, rfl⟩) hl

/-- An event that closes a session writes what it has read. -/
theorem heeds_closeSession {t : Instant} (h0 : 0 ≤ read)
    (h : Log (s.keys.accrualSet r) user read closed spent gained xs) :
    s.Heeds user r (s.closeSession user (s.keys.accrualSet r) read t) (fun n ys => n = read ∧
      Log (s.keys.accrualSet r) user read (closed + read) (spent + read) gained ys) xs := by
  refine (heeds_of .reset (F := fun _ ys =>
    Log (s.keys.accrualSet r) user read (closed + read) spent gained ys) ?_).bind fun _ ys hl => ?_
  · intro _ m _ _
    have hr : Exchange.isReset (s.keys.accrualSet r) user
        ⟨.store (.setScore (s.keys.accrualSet r) user 0), m, none⟩ = true := by
      simp [Exchange.isReset]
    exact h.cons rfl (by rw [if_pos hr]) (Int.add_zero _) (Int.add_zero _)
  · -- the reset was made; now the reading is written, unless it is zero
    split
    · obtain rfl : read = 0 := by omega
      exact heeds_pure ⟨rfl, by rw [Int.add_zero spent]; exact hl⟩
    · exact (heeds_flush hl).bind fun _ zs hl => heeds_pure ⟨rfl, hl⟩

/-- The outcome of an event tells what the event has done. -/
def Told (set user : String) (a : Accrual) (xs : List Exchange) : Prop :=
  ∃ read, Log set user read a.flushed a.flushed a.gained xs

theorem heeds_judge {t : Instant} {lastSeen : Option Instant} (h0 : 0 ≤ read)
    (h : Log (s.keys.accrualSet r) user read 0 0 0 xs) :
    s.Heeds user r (s.judge user (s.keys.accrualSet r) read t lastSeen)
      (Told (s.keys.accrualSet r) user) xs := by
  have hclose := heeds_closeSession (t := t) h0 h
  rw [Int.zero_add] at hclose
  cases lastSeen with
  | none =>
      refine hclose.bind fun n ys hn => ?_
      obtain ⟨rfl, hl⟩ := hn
      exact heeds_pure ⟨n, hl⟩
  | some last =>
      unfold judge
      dsimp only
      split
      · refine hclose.bind fun n ys hn => ?_
        obtain ⟨rfl, hl⟩ := hn
        exact heeds_pure ⟨n, hl⟩
      · split
        · rename_i hgap
          refine (heeds_of (.extend _ hgap) (F := fun _ ys =>
            Log (s.keys.accrualSet r) user read 0 0 (t.secondsSince last) ys) ?_).bind
              fun _ ys hl => heeds_pure ⟨read, hl⟩
          intro a m _ ha
          have hg := Exchange.gain_of_ok (Prod.ext ha rfl)
          exact h.cons rfl (Int.add_zero _) (Int.add_zero _) (by rw [hg, Int.zero_add])
        · exact heeds_pure ⟨read, h⟩

theorem log_nil (set user : String) : Log set user 0 0 0 0 [] := ⟨rfl, rfl, rfl, rfl⟩

theorem heeds_onActivity :
    s.Heeds user r (s.onActivity user) (Told (s.keys.accrualSet r) user) [] := by
  refine (heeds_silent .now (fun _ => ⟨rfl, rfl, rfl, rfl⟩) (log_nil _ user)).bind fun t _ hl => ?_
  refine (heeds_resolve hl).bind fun b _ hb => ?_
  obtain ⟨rfl, hl⟩ := hb
  refine (heeds_getScore hl).bind fun n _ hn => ?_
  obtain ⟨h0, hl⟩ := hn
  refine (heeds_silent (.getString _) (fun _ => ⟨rfl, rfl, rfl, rfl⟩) hl).bind fun text _ hl => ?_
  refine (heeds_silent (.mark _ _) (fun _ => ⟨rfl, rfl, rfl, rfl⟩) hl).bind fun _ _ hl => ?_
  exact heeds_judge h0 hl

theorem heeds_onHeartbeat :
    s.Heeds user r (s.onHeartbeat user) (Told (s.keys.accrualSet r) user) [] := by
  refine (heeds_resolve (log_nil _ user)).bind fun b _ hb => ?_
  obtain ⟨rfl, hl⟩ := hb
  refine (heeds_silent (.getString _) (fun _ => ⟨rfl, rfl, rfl, rfl⟩) hl).bind fun text _ hl => ?_
  cases text with
  | some text => exact heeds_pure ⟨0, hl⟩
  | none =>
      refine (heeds_getScore hl).bind fun n _ hn => ?_
      obtain ⟨h0, hl⟩ := hn
      split
      · exact heeds_pure ⟨n, hl⟩
      · refine (heeds_silent .now (fun _ => ⟨rfl, rfl, rfl, rfl⟩) hl).bind fun t _ hl => ?_
        refine (heeds_closeSession h0 hl).bind fun k _ hk => ?_
        obtain ⟨-, hl⟩ := hk
        rw [Int.zero_add] at hl
        exact heeds_pure ⟨n, hl⟩

theorem heeds_perform {P : Pool} {q : Request} (hq : P.sideBySide user (.begin q) = true) :
    s.Heeds user r (s.perform q) (fun report xs => ∃ a, report = .accrual a ∧
      Told (s.keys.accrualSet r) user a xs) [] := by
  cases q with
  | activity u =>
      obtain rfl := of_decide_eq_true hq
      exact heeds_onActivity.bind fun a _ ha => heeds_pure ⟨a, rfl, ha⟩
  | heartbeat u =>
      obtain rfl := of_decide_eq_true hq
      exact heeds_onHeartbeat.bind fun a _ ha => heeds_pure ⟨a, rfl, ha⟩
  | changeRange u range => cases hq
  | resolve u => cases hq
  | liveAccrual u => cases hq
  | knownBuckets => cases hq
  | scan job => cases hq

end Events

/-! ## All events together -/

section Together

variable {s : Service} {user : String} {r : Int} {P : Pool} {score₀ spent₀ : Int}

/-- The events of a user keep the books, whatever the order of their calls is. -/
theorem working_play {m : Memory} (hm : s.Steady user r m) (as : List Move)
    (ha : (⟨m, [], []⟩ : Pool).admits s (Pool.sideBySide user) as = true) :
    Pool.Working (s.Steady user r)
      (Accurate (s.keys.accrualSet r) user (m.store.getScore (s.keys.accrualSet r) user)
        (m.ledger.spent user))
      (fun c _ => s.EventCall user r c)
      (fun o xs => ∀ report, o = .ok report → ∃ a, report = .accrual a ∧
        Told (s.keys.accrualSet r) user a xs)
      ((⟨m, [], []⟩ : Pool).play s as) := by
  refine Pool.play_concurrent (fun c _ m hc h => hc.steady h)
    (fun i c m h hc _ hb => hb.cons (hc.effect m) i) (fun m t h ht => ?_) (fun m h t hb => ?_)
    (fun P q hq => heeds_perform hq) as ?_ ha
  · -- the clock moves forward
    exact ⟨fun t' ht' => h.cached t' (Int.le_trans ht ht'), h.score_nonneg⟩
  · exact ⟨hb.score, hb.spent, hb.quiet, hb.excess⟩
  · -- no program has begun
    refine ⟨hm, .nil hm.score_nonneg, fun i p hp => ?_, fun x hx => (by cases hx)⟩
    cases hp

/-- When all events have ended, their outcomes tell what all their calls have done. -/
theorem sums_of_working {E : Memory → Prop} {J : Memory → List (Nat × Exchange) → Prop}
    {allows : Call → List Exchange → Prop} {set : String}
    (hw : Pool.Working E J allows (fun o xs => ∀ report, o = .ok report → ∃ a,
      report = .accrual a ∧ Told set user a xs) P) (hend : P.isAnswered = true) :
    P.flushed = Pool.sumHistory (Exchange.closed set user) P.history ∧
      P.flushed = Pool.sumHistory (fun x _ => x.spent user) P.history ∧
      P.gained = Pool.sumHistory (fun x _ => x.gain set user) P.history := by
  have htold : ∀ (i : Nat) (p : Operation Report), P.threads[i]? = some p →
      ∃ a, p.accrual? = some a ∧ Told set user a (Pool.ownCalls i P.history) := by
    intro i p hp
    have hk := hw.keeps i p hp
    have hs := List.all_eq_true.1 hend p (List.mem_of_getElem? hp)
    obtain ⟨a, ha⟩ := Option.isSome_iff_exists.1 hs
    refine ⟨a, ha, ?_⟩
    -- a program that has ended with the value of an event has kept its contract up to there
    unfold Program.accrual? at ha
    split at ha
    · cases ha
      obtain ⟨b, hb, ht⟩ := hk _ rfl
      cases hb
      exact ht
    · cases ha
  refine ⟨Pool.sumEnds_eq_sumHistory hw.known fun i p hp => ?_,
    Pool.sumEnds_eq_sumHistory hw.known fun i p hp => ?_,
    Pool.sumEnds_eq_sumHistory hw.known fun i p hp => ?_⟩
  · obtain ⟨a, ha, read, hl⟩ := htold i p hp
    rw [ha]
    exact hl.closed.symm
  · obtain ⟨a, ha, read, hl⟩ := htold i p hp
    rw [ha]
    exact hl.spent.symm
  · obtain ⟨a, ha, read, hl⟩ := htold i p hp
    rw [ha]
    exact hl.gained.symm

end Together

/-- Events of a user whose alert range can be read, side by side, when all have ended: the seconds
that their outcomes tell to be flushed are those by which the daily statistics have grown; they are
at most the seconds accrued before and gained meanwhile exactly if the closing events have read no
more than they have set to zero and what is left, for which it is enough that no event sets the
score to zero between the reading of a closing event and its own setting to zero. -/
theorem flushed_le_iff_excess_le (s : Service) {m : Memory} {user : String} {r : Int}
    (hm : s.Steady user r m) (as : List Move)
    (ha : (⟨m, [], []⟩ : Pool).admits s (Pool.sideBySide user) as = true)
    (hend : ((⟨m, [], []⟩ : Pool).play s as).isAnswered = true) :
    let P := (⟨m, [], []⟩ : Pool).play s as
    let accrued := m.store.getScore (s.keys.accrualSet r) user
    P.memory.ledger.spent user = m.ledger.spent user + P.flushed ∧
      (P.flushed ≤ accrued + P.gained ↔
        P.excess (s.keys.accrualSet r) user ≤
          P.memory.store.getScore (s.keys.accrualSet r) user) ∧
      (Pool.undisturbed (s.keys.accrualSet r) user P.history = true →
        P.flushed ≤ accrued + P.gained) := by
  intro P accrued
  have hw : Pool.Working _ _ _ _ P := working_play hm as ha
  obtain ⟨hclosed, hspent, hgained⟩ := sums_of_working hw hend
  have hscore : _ = accrued + _ := hw.books.score
  have hpaid := hw.books.spent
  have hleft := hw.holds.score_nonneg
  have hexcess : P.excess (s.keys.accrualSet r) user =
      Pool.sumHistory (Exchange.closed (s.keys.accrualSet r) user) P.history -
        Pool.sumHistory (fun x _ => x.taken (s.keys.accrualSet r) user) P.history :=
    Pool.sumHistory_sub _ _ _
  -- flushed and left together are accrued, gained and the excess
  have hiff : P.flushed ≤ accrued + P.gained ↔ P.excess (s.keys.accrualSet r) user ≤
      P.memory.store.getScore (s.keys.accrualSet r) user := by omega
  exact ⟨by omega, hiff, fun hu => hiff.2 ((hw.books.excess hu).trans hleft)⟩

/-- A user with thirty accrued seconds, whose session has ended. -/
def thirtyLeft : Memory :=
  ((Memory.fresh Clock.noon).putString (standard.keys.alertRange "ada") "5" none).putScore
    (standard.keys.accrualSet 5) "ada" 30

theorem steady_thirtyLeft : standard.Steady "ada" 5 thirtyLeft := by
  -- a range without a lifetime can be read at any time
  refine ⟨fun t _ => ?_, by decide +kernel⟩
  have hs : thirtyLeft.store.strings.get? (standard.keys.alertRange "ada") = some ⟨"5", none⟩ :=
    Table.get?_set_self _ _ _
  unfold Store.getString
  rw [hs]
  show cachedRange? (some "5") = some 5
  decide +kernel

/-- An activity closes the session while a heartbeat looks on, and a later one accrues its gap. -/
def closingOnce : List Move :=
  .begin (.activity "ada") :: .begin (.heartbeat "ada") ::
    (List.replicate 5 (.step 0 none) ++ List.replicate 2 (.step 1 none) ++
      List.replicate 4 (.step 0 none)) ++
    .clock ⟨1792324810000, by decide⟩ :: .begin (.activity "ada") :: List.replicate 6 (.step 2 none)

theorem flushed_le_iff_excess_le_closingOnce :
    let P := (⟨thirtyLeft, [], []⟩ : Pool).play standard closingOnce
    P.flushed = 30 ∧ P.gained = 10 ∧ P.memory.ledger.spent "ada" = 0 + P.flushed ∧
      P.flushed ≤ 30 + P.gained := by
  have h := flushed_le_iff_excess_le standard steady_thirtyLeft closingOnce (by decide +kernel)
    (by decide +kernel)
  exact ⟨by decide +kernel, by decide +kernel, h.1, h.2.2 (by decide +kernel)⟩

/-- Two activities that both read the accrued seconds before one of them closes the session. -/
def closingTwice : List Move :=
  .begin (.activity "ada") :: .begin (.activity "ada") ::
    (List.replicate 4 (.step 0 none) ++ List.replicate 4 (.step 1 none) ++
      List.replicate 5 (.step 0 none) ++ List.replicate 5 (.step 1 none))

/-- Without the condition, events side by side can flush more than was ever accrued. -/
theorem flushed_exceeds_accrued :
    ¬ ∀ (s : Service) (m : Memory) (user : String) (r : Int), s.Steady user r m →
      ∀ as : List Move, (⟨m, [], []⟩ : Pool).admits s (Pool.sideBySide user) as = true →
      ((⟨m, [], []⟩ : Pool).play s as).isAnswered = true →
        ((⟨m, [], []⟩ : Pool).play s as).flushed ≤
          m.store.getScore (s.keys.accrualSet r) user +
            ((⟨m, [], []⟩ : Pool).play s as).gained := by
  intro h
  have hle := h standard thirtyLeft "ada" 5 steady_thirtyLeft closingTwice (by decide +kernel)
    (by decide +kernel)
  exact absurd hle (by decide +kernel)

end Service

end Presence
