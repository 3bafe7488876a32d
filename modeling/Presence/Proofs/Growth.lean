import Presence.Proofs.Interleaving
import Presence.Proofs.UserCalls

/-!
# Seconds only grow

Whatever the requests are, in whatever order their calls are made, and whichever of them are
refused: no accrued time becomes negative and no daily statistic decreases. A program may hold a
score that it has read some time ago, or the gap to a marker that another program has written
since. Main statements: `solvent_serve` and `grows_serve` say what a fair call keeps,
`thrifty_perform` that all programs make fair calls, and `Service.solvent_and_grows` what follows
for every run.
-/

set_option autoImplicit false

namespace Presence

/-! ## Fair calls -/

/-- What can be said of a call by which no seconds are lost: it sets no accrued time below zero,
takes no seconds from a score and none from the statistics. -/
def Call.IsFair (k : Keys) : Call → Prop
  | .store (.setScore set _ value) => k.bucket? set = none ∨ 0 ≤ value
  | .store (.incrScore _ _ delta) => 0 ≤ delta
  | .ledger (.add _ _ seconds) => 0 ≤ seconds
  | _ => True

/-- No accrued time is negative. -/
def Memory.Solvent (k : Keys) (m : Memory) : Prop :=
  ∀ (b : Int) (user : String), 0 ≤ m.store.getScore (k.accrualSet b) user

/-- Every record of the one is in the other, with as many seconds at least. -/
def Ledger.Grows (l l' : Ledger) : Prop :=
  ∀ (user day : String) (r : DailyStatistic), l.find user day = some r →
    ∃ r', l'.find user day = some r' ∧ r.spentSeconds ≤ r'.spentSeconds

namespace Ledger

theorem Grows.refl (l : Ledger) : Grows l l := fun _ _ r h => ⟨r, h, Int.le_refl _⟩

/-- Adding seconds leaves all other records alone. -/
theorem grows_add (l : Ledger) (user day : String) {seconds : Int} (h : 0 ≤ seconds) :
    Grows l (l.add user day seconds).2 := by
  by_cases hf : Signed64.Fits (l.spentOn user day + seconds)
  · intro u d r hr
    rw [find_add hf]
    split
    · -- the record to which the seconds are added
      rename_i he
      obtain ⟨rfl, rfl⟩ := he
      have hs : l.spentOn u d = r.spentSeconds := by
        unfold spentOn
        rw [hr, Option.elim_some]
      refine ⟨_, rfl, ?_⟩
      show r.spentSeconds ≤ l.spentOn u d + seconds
      omega
    · exact ⟨r, hr, Int.le_refl _⟩
  · -- the sum is out of range, and nothing is written
    rw [add_of_not_fits l user day seconds hf]
    exact .refl l

end Ledger

namespace Memory

variable {k : Keys} {m : Memory}

theorem solvent_fresh (t : Instant) : Solvent k (fresh t) := fun _ _ => Int.le_refl 0

theorem Solvent.putScore {set member : String} {value : Int} (h : Solvent k m)
    (hv : k.bucket? set = none ∨ 0 ≤ value) : Solvent k (m.putScore set member value) := by
  intro b user
  show 0 ≤ (m.store.setScore set member value).getScore (k.accrualSet b) user
  rw [Store.getScore_setScore]
  split
  · rename_i he
    rcases hv with hv | hv
    · rw [← he.1, Keys.bucket?_accrualSet] at hv
      cases hv
    · exact hv
  · exact h b user

theorem Solvent.dropMember (h : Solvent k m) (set member : String) :
    Solvent k (m.dropMember set member) := by
  intro b user
  show 0 ≤ (m.store.removeMember set member).getScore (k.accrualSet b) user
  rw [Store.getScore_removeMember]
  split
  · exact Int.le_refl 0
  · exact h b user

theorem Solvent.of_sets {m' : Memory} (h : Solvent k m) (hs : m'.store.sets = m.store.sets) :
    Solvent k m' := by
  intro b user
  unfold Store.getScore Store.members
  rw [hs]
  exact h b user

/-- A fair call leaves no accrued time negative. -/
theorem solvent_serve {c : Call} (hc : c.IsFair k) (h : Solvent k m) :
    Solvent k (serve c m).2 := by
  cases c with
  | store c =>
      cases c with
      | setScore set member value => exact h.putScore hc
      | removeMember set member => exact h.dropMember set member
      | incrScore set member delta =>
          rcases m.serve_incrScore set member delta with hr | hr
          · -- the score that is written is the one that stands there and more
            rw [hr]
            refine h.putScore ?_
            cases hb : k.bucket? set with
            | none => exact .inl rfl
            | some b =>
                have hs := h b member
                rw [← Keys.bucket?_eq_some_iff.1 hb] at hs
                exact .inr (Int.add_nonneg hs hc)
          · rw [hr]
            exact h
      | setString key value ttl =>
          -- texts are no scores
          refine h.of_sets ?_
          show (m.store.setString m.clock.now key value ttl).2.sets = _
          cases ttl with
          | none => rfl
          | some n =>
              unfold Store.setString
              dsimp only
              cases m.clock.now.after (Signed64.ofUnsigned n) <;> rfl
      | getString key => exact h
      | getScore set member => exact h
      | rangeByScore set low high => exact h
  | ledger c => exact h
  | profile user => exact h
  | notify n => exact h
  | queue c => exact h
  | now => exact h
  | count c n => exact h
  | enter job => exact h
  | leave job => exact h

/-- A fair call takes no seconds from the statistics. -/
theorem grows_serve {c : Call} (hc : c.IsFair k) (m : Memory) :
    m.ledger.Grows (serve c m).2.ledger := by
  cases c with
  | ledger c =>
      cases c with
      | add user day seconds => exact m.ledger.grows_add user day hc
      | find user day => exact .refl _
      | range user first last => exact .refl _
  | store c => exact .refl _
  | profile user => exact .refl _
  | notify n => exact .refl _
  | queue c => exact .refl _
  | now => exact .refl _
  | count c n => exact .refl _
  | enter job => exact .refl _
  | leave job => exact .refl _

end Memory

namespace Exchange

variable {k : Keys} {c : Call} {m : Memory}

/-- A call that is refused changes nothing, any other one what it changes when it is served. -/
theorem solvent_after (hc : c.IsFair k) (h : m.Solvent k) (refused : Option Failure) :
    (⟨c, m, refused⟩ : Exchange).after.Solvent k :=
  holds_after (I := fun m' => m'.Solvent k) h (Memory.solvent_serve hc h) refused

theorem grows_after (hc : c.IsFair k) (m : Memory) (refused : Option Failure) :
    m.ledger.Grows (⟨c, m, refused⟩ : Exchange).after.ledger :=
  holds_after (I := fun m' => m.ledger.Grows m'.ledger) (.refl _) (Memory.grows_serve hc m)
    refused

end Exchange

namespace Service

open Operation Program

variable {s : Service} {user : String} {α : Type}

/-! ## Programs that make fair calls -/

/-- The contract of a program among others: its calls are fair, and no accrued time that it is told
is negative, whenever it asks. -/
def thrift (s : Service) : Contract Call.Reply (List Exchange) where
  allows c _ := c.IsFair s.keys
  answers c xs r xs' := ∃ (m : Memory) (refused : Option Failure), m.Solvent s.keys ∧
    r = (⟨c, m, refused⟩ : Exchange).reply ∧ xs' = ⟨c, m, refused⟩ :: xs

/-- A program that keeps this contract from here on. -/
def Thrifty (s : Service) (p : Operation α) (xs : List Exchange) : Prop :=
  p.Keeps s.thrift (fun _ _ => True) xs

theorem Thrifty.bind {β : Type} {p : Operation α} {f : α → Operation β} {xs : List Exchange}
    (hp : s.Thrifty p xs) (hf : ∀ a xs, s.Thrifty (f a) xs) : s.Thrifty (p >>= f) xs := by
  refine keeps_bind.2 (Keeps.mono (fun o ys _ => ?_) hp)
  cases o with
  | ok a => exact hf a ys
  | failed e => exact True.intro
  | crashed c => exact True.intro

/-- All calls on a user are fair, but for those that move accrued time. -/
theorem UserCall.isFair {c : Call} (h : s.UserCall user c) : c.IsFair s.keys := by
  cases h with
  | list bucket => exact .inl Keys.bucket?_bucketIndex
  | reset b => exact .inr (Int.le_refl 0)
  | gain b h => exact Int.le_of_lt h
  | spend day h => exact Int.le_of_lt h
  | now => exact True.intro
  | count c n => exact True.intro
  | profile => exact True.intro
  | getMarker => exact True.intro
  | getRange => exact True.intro
  | setRange range => exact True.intro
  | getScore b => exact True.intro

theorem Thrifty.of_only {p : Operation α} (h : p.Only fun c => c.IsFair s.keys)
    (xs : List Exchange) : s.Thrifty p xs :=
  h.keeps (fun _ _ hc _ => ⟨hc, fun _ _ _ => True.intro⟩) True.intro

theorem Thrifty.of_call {c : Call} (h : c.IsFair s.keys) (xs : List Exchange) :
    s.Thrifty (of c) xs :=
  ⟨h, fun _ _ _ => True.intro⟩

theorem Thrifty.of_user {p : Operation α} (h : p.Only (s.UserCall user)) (xs : List Exchange) :
    s.Thrifty p xs :=
  .of_only (h.mono fun _ hc => hc.isFair) xs

/-- The score that a program is told is not negative. -/
theorem keeps_getScore (b : Int) (user : String) (xs : List Exchange) :
    (getScore (s.keys.accrualSet b) user).Keeps s.thrift
      (fun o _ => ∀ n, o = .ok n → 0 ≤ n) xs := by
  refine ⟨True.intro, ?_⟩
  rintro r ys ⟨m, refused, hm, rfl, -⟩ n hn
  rcases Exchange.cases_refusal (.store (.getScore (s.keys.accrualSet b) user)) m refused with
    ⟨e, he, -⟩ | ⟨he, -⟩
  · rw [he] at hn
    cases hn
  · rw [he] at hn
    cases hn
    exact hm b user

/-- What is taken out of a bucket is not negative when it is put into another. -/
theorem thrifty_moveAccrual (user : String) (previous range : Int) (xs : List Exchange) :
    s.Thrifty (s.moveAccrual user previous range) xs := by
  refine keeps_bind.2 (Keeps.mono (fun o ys ho => ?_) (keeps_getScore previous user xs))
  cases o with
  | failed e => exact True.intro
  | crashed c => exact True.intro
  | ok accrued =>
      have hl : (Call.store (.removeMember (s.keys.accrualSet previous) user)).IsFair s.keys :=
        True.intro
      have hd : (Call.store (.incrScore (s.keys.accrualSet range) user accrued)).IsFair s.keys :=
        ho accrued rfl
      refine (Thrifty.of_call hl ys).bind fun _ zs => ?_
      exact (Thrifty.of_call hd zs).bind fun _ _ => True.intro

theorem thrifty_changeRange (user : String) (range : Int) (xs : List Exchange) :
    s.Thrifty (s.changeRange user range) xs := by
  have hl := Thrifty.of_user (only_enlist (s := s) user range)
  unfold changeRange
  split
  · exact True.intro
  · refine (Thrifty.of_user (only_resolve user) xs).bind fun previous ys => ?_
    dsimp only
    split
    · exact hl ys
    · exact (thrifty_moveAccrual user previous range ys).bind fun _ => hl

/-- Every request makes fair calls, whatever the others do. -/
theorem thrifty_perform (r : Request) (xs : List Exchange) : s.Thrifty (s.perform r) xs := by
  have hread {c : Call} (h : c.isReading = true) : c.IsFair s.keys := by
    cases c with
    | store c => cases c <;> first | exact True.intro | cases h
    | ledger c => cases c <;> first | exact True.intro | cases h
    | _ => exact True.intro
  cases r with
  | activity u =>
      refine Thrifty.bind (Thrifty.of_only ((only_onActivity u).mono fun c hc => ?_) xs)
        fun _ _ => True.intro
      rcases hc with hc | ⟨text, ttl⟩
      · exact hc.isFair
      · exact True.intro
  | heartbeat u => exact (Thrifty.of_user (only_onHeartbeat u) xs).bind fun _ _ => True.intro
  | changeRange u range => exact (thrifty_changeRange u range xs).bind fun _ _ => True.intro
  | resolve u => exact (Thrifty.of_user (only_resolve u) xs).bind fun _ _ => True.intro
  | liveAccrual u => exact (Thrifty.of_user (only_liveAccrual u) xs).bind fun _ _ => True.intro
  | knownBuckets => exact Thrifty.of_only ((reads_perform rfl).mono fun _ => hread) xs
  | scan job => exact Thrifty.of_only ((reads_perform rfl).mono fun _ => hread) xs

/-! ## Every run -/

/-- A fair call, refused or not, is what the contract says it is, and leaves no debts. -/
theorem honours_thrift (i : Nat) (refused : Option Failure) :
    Pool.Honours (fun _ => s.thrift) (fun m _ => m.Solvent s.keys) i refused :=
  fun _ m _ hc hm => ⟨⟨m, refused, hm, rfl, rfl⟩, Exchange.solvent_after hc hm refused⟩

theorem abiding_play {m : Memory} (hm : m.Solvent s.keys) (as : List Move) :
    Pool.Abiding (fun _ => s.thrift) (fun m _ => m.Solvent s.keys) (fun _ _ _ => True)
      ((⟨m, [], []⟩ : Pool).play s as) := by
  have ha (as : List Move) (P : Pool) : P.admits s (fun _ _ => true) as = true := by
    induction as generalizing P with
    | nil => rfl
    | cons a rest ih => exact ih _
  refine Pool.play_abiding (fun _ i refused _ => honours_thrift i refused) (fun P t _ h => ?_)
    (fun P r _ => ?_) as (.init hm) (ha as _)
  · exact h.of_sets rfl
  · exact thrifty_perform r []

/-- A move of a pool whose programs make fair calls takes no seconds from the statistics. -/
theorem grows_move {P : Pool} (h : Pool.Abiding (fun _ => s.thrift)
      (fun m _ => m.Solvent s.keys) (fun _ _ _ => True) P) (a : Move) :
    P.memory.ledger.Grows (P.move s a).memory.ledger := by
  cases a with
  | clock t => exact .refl _
  | begin r => exact .refl _
  | step i refused =>
      by_cases hc : ∃ c next, P.threads[i]? = some (.call c next)
      · obtain ⟨c, next, hi⟩ := hc
        rw [Pool.move_step_of_call hi]
        exact Exchange.grows_after (h.keeps i _ hi).1 P.memory refused
      · rw [Pool.move_step_of_not_call fun c next h => hc ⟨c, next, h⟩]
        exact .refl _

/-- From surroundings without negative accrued time, whatever markers, ranges and clock are, however
the calls of any requests follow each other, whichever of them are refused and whatever the clock
does: no accrued time is negative at any point, and no move takes away a daily statistic or any of
its seconds. -/
theorem solvent_and_grows (s : Service) {m : Memory} (hm : m.Solvent s.keys) (as : List Move)
    (a : Move) :
    let P := (⟨m, [], []⟩ : Pool).play s as
    P.memory.Solvent s.keys ∧ P.memory.ledger.Grows (P.move s a).memory.ledger :=
  ⟨(abiding_play hm as).books, grows_move (abiding_play hm as) a⟩

/-- A user with thirty accrued seconds and a marker that names no instant. -/
def unreadableMarker : Memory :=
  ((Memory.fresh Clock.noon).putString (standard.keys.sessionMarker "ada") "soon" none).putScore
    (standard.keys.accrualSet 5) "ada" 30

theorem solvent_unreadableMarker : unreadableMarker.Solvent standard.keys :=
  (Memory.solvent_fresh (k := standard.keys) Clock.noon |>.of_sets rfl).putScore
    (.inr (by decide))

/-- An activity and a change of the alert range have both read the accrued time. The change takes it
away, but is refused to add it to another bucket; the clock is set back, and the activity is about
to write what it has read. -/
def halfMoved : List Move :=
  .begin (.changeRange "ada" 7) :: .begin (.activity "ada") ::
    (List.replicate 6 (.step 1 none) ++ List.replicate 3 (.step 0 none)) ++
    .step 0 (some (.reported "gone")) :: .clock .epoch :: List.replicate 3 (.step 1 none)

theorem solvent_and_grows_halfMoved :
    let P := (⟨unreadableMarker, [], []⟩ : Pool).play standard halfMoved
    P.memory.Solvent standard.keys ∧
      P.memory.ledger.Grows (P.move standard (.step 1 none)).memory.ledger ∧
      P.memory.ledger.spent "ada" = 0 ∧
      (P.move standard (.step 1 none)).memory.ledger.spent "ada" = 30 := by
  have h := solvent_and_grows standard solvent_unreadableMarker halfMoved (.step 1 none)
  exact ⟨h.1, h.2, by decide +kernel, by decide +kernel⟩

end Service

end Presence
