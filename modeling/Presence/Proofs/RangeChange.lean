import Presence.Proofs.Unranged

/-!
# A change of the alert range beside an event

A change of the alert range reads the accrued seconds of the old bucket, takes them away and adds
them to the new one; an event of the same user, beside it, writes to the bucket that it has asked
for before. Nothing is lost, doubled or left behind exactly if the event does not write to the old
bucket after the change has read the seconds there. Main statement:
`Service.placed_iff_isLate_eq_false`. In surroundings in which the alert range is stored the run is
carried by `Service.Shared`, in others there are no seconds at all (`Service.Vacant`).
-/

set_option autoImplicit false

namespace Presence

open Operation Program

/-- The program has ended with a value. -/
def Program.hasValue {α : Type} : Operation α → Bool
  | .done o => o.isOk
  | .call _ _ => false

namespace Pool

/-- A change of the alert range of a user, and an event. -/
def pair (s : Service) (m : Memory) (user : String) (r : Int) (e : Request) : Pool :=
  ⟨m, [s.perform (.changeRange user r), s.perform e], []⟩

/-- The moves of what has begun, without failures. The clock goes anywhere. -/
def unrefused (_ : Pool) : Move → Bool
  | .step _ refused => refused.isNone
  | .clock _ => true
  | .begin _ => false

/-- All programs have ended with values. -/
def isSettled (P : Pool) : Bool := P.threads.all hasValue

/-- After the first program had read the score of a user in a set, the second one has written to it:
a gap, or zero in place of seconds that it had read. -/
def isLate (set user : String) : List (Nat × Exchange) → Bool
  | [] => false
  | (i, x) :: rest =>
    isLate set user rest ||
      (decide (i = 1) && (((ownCalls 0 rest).any fun y => y.isRead set user) &&
        (decide (0 < x.gain set user) || decide (0 < x.closed set user (ownCalls 1 rest)))))

/-- One program has made all its calls before the other one has made any. -/
def IsSerial (h : List (Nat × Exchange)) : Prop :=
  (h.map (·.1)).Pairwise (· ≤ ·) ∨ (h.map (·.1)).Pairwise (· ≥ ·)

instance (h : List (Nat × Exchange)) : Decidable (IsSerial h) := inferInstanceAs (Decidable (_ ∨ _))

/-- The user has seconds in no other bucket than the one that asking for the alert range yields. -/
def IsPlaced (s : Service) (user : String) (P : Pool) : Prop :=
  ∀ b, 0 < P.memory.store.getScore (s.keys.accrualSet b) user →
    (P.memory.run (s.resolve user)).1 = .ok b

/-- In two runs the second program has read the same times from the clock, as far as it has read it
in both. -/
def SameReadings (s : Service) (user : String) (P P' : Pool) : Prop :=
  readings s user (ownCalls 1 P.history) <:+ readings s user (ownCalls 1 P'.history) ∨
    readings s user (ownCalls 1 P'.history) <:+ readings s user (ownCalls 1 P.history)

/-- If the second program was first, it was not late. -/
theorem isLate_eq_false_of_le {set user : String} {h : List (Nat × Exchange)}
    (hs : (h.map (·.1)).Pairwise (· ≤ ·)) : isLate set user h = false := by
  induction h with
  | nil => rfl
  | cons y rest ih =>
      obtain ⟨i, x⟩ := y
      rw [List.map_cons, List.pairwise_cons] at hs
      unfold isLate
      rw [ih hs.2, Bool.false_or]
      by_cases hi : i = 1
      · -- the first program has made no calls yet
        have hn : ownCalls 0 rest = [] := ownCalls_eq_nil fun z hz h0 => by
          have := hs.1 z.1 (List.mem_map_of_mem hz)
          omega
        rw [hn, List.any_nil, Bool.false_and, Bool.and_false]
      · rw [decide_eq_false hi, Bool.false_and]

/-! ## Two programs -/

section Pair

variable {s : Service} {m : Memory} {user : String} {r : Int} {e : Request}
  {K : Nat → Contract Call.Reply (List Exchange)} {J : Memory → List (Nat × Exchange) → Prop}
  {F : Nat → Report → List Exchange → Prop} {P : Pool}

/-- The contracts of two programs. There is no third one. -/
def sharing (K₀ K₁ : Contract Call.Reply (List Exchange)) :
    Nat → Contract Call.Reply (List Exchange)
  | 0 => K₀
  | 1 => K₁
  | _ => ⟨fun _ _ => False, fun _ _ _ _ => True⟩

theorem length_threads_play (as : List Move) (ha : P.admits s unrefused as = true) :
    (P.play s as).threads.length = P.threads.length := by
  induction as generalizing P with
  | nil => rfl
  | cons a rest ih =>
      obtain ⟨ha, hr⟩ := Bool.and_eq_true_iff.1 ha
      refine (ih hr).trans ?_
      cases a with
      | step i refused =>
          by_cases hc : ∃ c next, P.threads[i]? = some (.call c next)
          · obtain ⟨c, next, hi⟩ := hc
            rw [move_step_of_call hi]
            exact List.length_set
          · rw [move_step_of_not_call fun c next h => hc ⟨c, next, h⟩]
      | clock t => rfl
      | begin q => cases ha

/-- What a change and an event keep whatever the other one does holds in the end. -/
theorem play_pair (h : J m []) (h0 : Meets (K 0) (s.perform (.changeRange user r)) (F 0) [])
    (h1 : Meets (K 1) (s.perform e) (F 1) []) (hstep : ∀ i, Honours K J i none)
    (hclock : ∀ m h t, J m h → J (m.clockAt t) h) {as : List Move}
    (ha : (pair s m user r e).admits s unrefused as = true)
    (hend : ((pair s m user r e).play s as).isSettled = true) :
    ∃ x y, ((pair s m user r e).play s as).threads = [.done (.ok x), .done (.ok y)] ∧
      J ((pair s m user r e).play s as).memory ((pair s m user r e).play s as).history ∧
      F 0 x (ownCalls 0 ((pair s m user r e).play s as).history) ∧
      F 1 y (ownCalls 1 ((pair s m user r e).play s as).history) := by
  have hbegin : Abiding K J (fun i o xs => ∀ a, o = .ok a → F i a xs) (pair s m user r e) := by
    refine ⟨h, fun i p hp => ?_, fun x hx => (nomatch hx)⟩
    match i, hp with
    | 0, hp => exact Option.some.inj hp ▸ h0
    | 1, hp => exact Option.some.inj hp ▸ h1
  have hw : Abiding K J _ ((pair s m user r e).play s as) :=
    play_abiding (fun P i refused hr => by
        obtain rfl := Option.isNone_iff_eq_none.1 hr
        exact hstep i)
      (fun P t _ hJ => hclock _ _ t hJ) (fun P q hq => by cases hq) as hbegin ha
  have hlen := length_threads_play as ha
  generalize (pair s m user r e).play s as = P at hw hlen hend
  -- a program that has ended with a value has kept its contract up to there
  have hvalue (i : Nat) (hi : i < P.threads.length) :
      ∃ x, P.threads[i]? = some (.done (.ok x)) ∧ F i x (ownCalls i P.history) := by
    have hp := List.getElem?_eq_getElem hi
    have hv := List.all_eq_true.1 hend _ (List.getElem_mem hi)
    have hk := hw.keeps i _ hp
    generalize P.threads[i] = p at hp hv hk
    match p, hv, hk with
    | .done (.ok x), _, hk => exact ⟨x, hp, hk x rfl⟩
  obtain ⟨x, hx, hF⟩ := hvalue 0 (by rw [hlen]; exact Nat.zero_lt_two)
  obtain ⟨y, hy, hG⟩ := hvalue 1 (by rw [hlen]; exact Nat.one_lt_two)
  refine ⟨x, y, List.ext_getElem? fun i => ?_, hw.books, hF, hG⟩
  match i with
  | 0 => exact hx
  | 1 => exact hy
  | i + 2 =>
      rw [List.getElem?_eq_none (by rw [hlen]; exact Nat.le_add_left 2 i)]
      rfl

end Pair

end Pool

namespace Service

variable {s : Service} {user : String} {m : Memory} {c r start : Int} {h : List (Nat × Exchange)}
  {call : Call} {A : Carrier} {B : Stage}

/-! ## What the calls tell -/

theorem next_ne_waiting {set user : String} {A : Carrier} (hA : A ≠ .waiting) (x : Exchange) :
    A.next set user x ≠ .waiting := by
  unfold Carrier.next
  split
  · exact absurd rfl hA
  · exact Carrier.noConfusion
  · split <;> exact Carrier.noConfusion
  · exact Carrier.noConfusion
  · exact hA

/-- A change waits until it reads the score. -/
theorem carrierOf_eq_waiting_iff (set user : String) (xs : List Exchange) :
    carrierOf set user xs = .waiting ↔ (xs.any fun x => x.isRead set user) = false := by
  induction xs with
  | nil => exact iff_of_true rfl rfl
  | cons x rest ih =>
      rw [List.any_cons, Bool.or_eq_false_iff, ← ih]
      by_cases hA : carrierOf set user rest = .waiting
      · show (carrierOf set user rest).next set user x = .waiting ↔ _
        rw [hA]
        unfold Carrier.next
        cases x.isRead set user <;> simp
      · exact iff_of_false (next_ne_waiting hA x) fun e => hA e.2

/-- A change does not renew the session marker. -/
theorem CarrierCall.isMark (hc : s.CarrierCall user c r A call) : call.isMark s user = false := by
  cases hc with
  | name => exact decide_eq_false (Keys.sessionMarker_ne_alertRange user user).symm
  | keep he => exact decide_eq_false (Keys.sessionMarker_ne_alertRange user user).symm
  | _ => rfl

/-- The call of an event does harm that adds a gap, or that closes with seconds that were read. -/
theorem StageCall.harms_eq (hc : s.StageCall user B call) {xs : List Exchange}
    (hread : ∀ n, B = .holding c n → Exchange.lastRead (s.keys.accrualSet c) user xs = n) :
    (decide (0 < Exchange.gain (s.keys.accrualSet c) user ⟨call, m, none⟩) ||
      decide (0 < Exchange.closed (s.keys.accrualSet c) user ⟨call, m, none⟩ xs)) =
        B.harms c ⟨call, m, none⟩ := by
  cases hc with
  | aside B hc =>
      rw [hc.harms B c m]
      cases hc <;> rfl
  | ask => rfl
  | hold b => rfl
  | spend n day => rfl
  | reset b n =>
      have hg : Exchange.gain (s.keys.accrualSet c) user
          ⟨.store (.setScore (s.keys.accrualSet b) user 0), m, none⟩ = 0 := rfl
      unfold Exchange.closed Exchange.isReset Stage.harms
      rw [hg]
      by_cases hb : b = c
      · subst hb
        simp [hread n rfl]
      · simp [hb]
  | gain b n hpos =>
      rename_i gap
      have hc : Exchange.closed (s.keys.accrualSet c) user
          ⟨.store (.incrScore (s.keys.accrualSet b) user gap), m, none⟩ xs = 0 := rfl
      unfold Exchange.gain Stage.harms
      rw [hc]
      by_cases hb : b = c
      · subst hb
        cases ho : (⟨.store (.incrScore (s.keys.accrualSet b) user gap), m, none⟩ :
          Exchange).reply.isOk <;> simp [hpos]
      · simp [hb]

/-- What the event holds of the old bucket it has read there last. -/
theorem StageCall.lastRead (hc : s.StageCall user B call) {xs : List Exchange}
    (hread : ∀ n, B = .holding c n → Exchange.lastRead (s.keys.accrualSet c) user xs = n) (n : Int)
    (hn : B.next s user ⟨call, m, none⟩ = .holding c n) :
    Exchange.lastRead (s.keys.accrualSet c) user (⟨call, m, none⟩ :: xs) = n := by
  rcases hc.next_cases m with ⟨he, hr⟩ | hw | he | ⟨b, rfl, rfl, he⟩
  · refine (if_neg ?_).trans (hread n (he.symm.trans hn))
    rw [hr]
    exact Bool.false_ne_true
  · rw [hn] at hw
    cases hw
  · rw [he] at hn
    cases hn
  · rw [he] at hn
    obtain ⟨rfl, rfl⟩ := Stage.holding.inj hn
    exact if_pos (by simp [Exchange.isRead])

/-- An event that does not work on the old bucket does no harm there. -/
theorem harms_eq_false (hb : B.bucket? ≠ some c) (x : Exchange) : B.harms c x = false := by
  unfold Stage.harms
  split
  · rename_i b n _ _
    rw [decide_eq_false fun e => hb (congrArg some e), Bool.false_and]
  · rename_i b n _ _
    rw [decide_eq_false fun e => hb (congrArg some e), Bool.false_and]
  · rfl

/-- The bucket that an event works on is the one that it was told when it asked for it. -/
theorem StageCall.bucket?_next (hc : s.StageCall user B call) {b : Int}
    (hb : (B.next s user ⟨call, m, none⟩).bucket? = some b) :
    B.bucket? = some b ∨ b = s.rangeIn user m := by
  rcases hc.next_cases m with ⟨he, -⟩ | hw | he | ⟨b', rfl, -, he⟩
  · rw [he] at hb
    exact .inl hb
  · rw [Stage.bucket?_of_hasWritten hw] at hb
    cases hb
  · rw [he] at hb
    exact .inr (Option.some.inj hb).symm
  · rw [he] at hb
    exact .inl hb

/-! ## A stored alert range -/

section Shared

variable {marker : Option StoredText}

/-- What holds while a change from the stored range `c` to the range `r` and an event are under way
that have made these calls, if there were `start` seconds and this session marker before. -/
structure Shared (s : Service) (user : String) (c r start : Int) (marker : Option StoredText)
    (m : Memory) (h : List (Nat × Exchange)) : Prop where
  sound : Sound c r start (m.purse s user)
    (carrierOf (s.keys.accrualSet c) user (Pool.ownCalls 0 h))
    (stageOf s user (Pool.ownCalls 1 h)) (Pool.isLate (s.keys.accrualSet c) user h)
  unmarked : hasMarked s user (Pool.ownCalls 1 h) = false → s.marker m user = marker
  reading : ∀ n, stageOf s user (Pool.ownCalls 1 h) = .holding c n →
    Exchange.lastRead (s.keys.accrualSet c) user (Pool.ownCalls 1 h) = n
  /-- After a change that was first the event asks for the alert range, and finds the new one. -/
  first : (h.map (·.1)).Pairwise (· ≥ ·) →
    carrierOf (s.keys.accrualSet c) user (Pool.ownCalls 0 h) = .named →
      (stageOf s user (Pool.ownCalls 1 h)).bucket? ≠ some c ∧
        Pool.isLate (s.keys.accrualSet c) user h = false

namespace Shared

theorem change (hs : s.Shared user c r start marker m h)
    (hc : s.CarrierCall user c r
      (carrierOf (s.keys.accrualSet c) user (Pool.ownCalls 0 h)) call) :
    s.Shared user c r start marker (Memory.serve call m).2 ((0, ⟨call, m, none⟩) :: h) := by
  have h0 := Pool.ownCalls_cons_self 0 ⟨call, m, none⟩ h
  have h1 := Pool.ownCalls_cons_of_ne Nat.zero_ne_one ⟨call, m, none⟩ h
  have hlate : Pool.isLate (s.keys.accrualSet c) user ((0, ⟨call, m, none⟩) :: h) =
      Pool.isLate (s.keys.accrualSet c) user h := Bool.or_false _
  constructor
  · rw [h0, h1, hlate]
    exact hc.sound hs.sound
  · rw [h1]
    exact fun hm => (marker_serve hc.isMark m).trans (hs.unmarked hm)
  · rw [h1]
    exact hs.reading
  · intro hp _
    rw [List.map_cons, List.pairwise_cons] at hp
    -- the event has made no calls yet
    have hn : Pool.ownCalls 1 h = [] := Pool.ownCalls_eq_nil fun x hx e => by
      have := hp.1 x.1 (List.mem_map_of_mem hx)
      omega
    have hf := hs.sound.late_eq_false_of_hasWritten (by rw [hn]; rfl)
    rw [h1, hlate, hn]
    exact ⟨(fun e => by cases e), hf⟩

theorem event (hpos : 0 < c ∧ 0 < r) (hfit : Signed64.Fits c ∧ Signed64.Fits r)
    (hs : s.Shared user c r start marker m h)
    (hc : s.StageCall user (stageOf s user (Pool.ownCalls 1 h)) call) :
    s.Shared user c r start marker (Memory.serve call m).2 ((1, ⟨call, m, none⟩) :: h) := by
  have h1 := Pool.ownCalls_cons_self 1 ⟨call, m, none⟩ h
  have h0 := Pool.ownCalls_cons_of_ne Nat.one_ne_zero ⟨call, m, none⟩ h
  have hlate : Pool.isLate (s.keys.accrualSet c) user ((1, ⟨call, m, none⟩) :: h) =
      (Pool.isLate (s.keys.accrualSet c) user h ||
        (decide (carrierOf (s.keys.accrualSet c) user (Pool.ownCalls 0 h) ≠ .waiting) &&
          (stageOf s user (Pool.ownCalls 1 h)).harms c ⟨call, m, none⟩)) := by
    have hw : ((Pool.ownCalls 0 h).any fun y => y.isRead (s.keys.accrualSet c) user) =
        decide (carrierOf (s.keys.accrualSet c) user (Pool.ownCalls 0 h) ≠ .waiting) := by
      simp only [ne_eq, carrierOf_eq_waiting_iff]
      cases (Pool.ownCalls 0 h).any fun y => y.isRead (s.keys.accrualSet c) user <;> rfl
    rw [← hc.harms_eq hs.reading, ← hw]
    rfl
  constructor
  · rw [h0, h1, hlate]
    exact hc.sound hpos hfit hs.sound
  · rw [h1]
    intro hm
    obtain ⟨hm, hb⟩ := Bool.or_eq_false_iff.1 hm
    exact (marker_serve hm m).trans (hs.unmarked hb)
  · rw [h1]
    exact fun n hn => hc.lastRead hs.reading n hn
  · intro hp hA
    rw [h0] at hA
    rw [List.map_cons, List.pairwise_cons] at hp
    obtain ⟨hb, hf⟩ := hs.first hp.2 hA
    have hne : c ≠ r := hs.sound.apart (by rw [hA]; exact Carrier.noConfusion)
    rw [hlate, h1, harms_eq_false hb, hf, Bool.and_false]
    refine ⟨fun e => ?_, rfl⟩
    rcases hc.bucket?_next (m := m) e with e | e
    · exact hb e
    · rw [rangeIn_of_sound hpos hfit hs.sound, if_pos hA] at e
      exact hne e

/-- Before either has made a call. -/
theorem init (hp : s.PlacedFor m user) (ht : s.rangeText? m user = some ⟨toString c, none⟩) :
    s.Shared user c r (m.credit s.keys user) (s.marker m user) m [] where
  sound := by
    -- a user has seconds in the stored range only
    exact Sound.init (p := m.purse s user) ht hp.getScore_nonneg fun b hb =>
      getScore_eq_zero fun x hx => hb (hp.eq_of_held ht hx)
  unmarked _ := rfl
  reading n hn := nomatch hn
  first _ hA := nomatch hA

/-- Both find what their contracts say, and move the seconds on. -/
theorem honours (hpos : 0 < c ∧ 0 < r) (hfit : Signed64.Fits c ∧ Signed64.Fits r) (i : Nat) :
    Pool.Honours (Pool.sharing (s.carrying user c r) (s.attending user marker))
      (s.Shared user c r start marker) i none := by
  intro call m h hc hs
  rw [Exchange.after_of_none]
  match i, hc with
  | 0, hc =>
      refine ⟨⟨m, fun hA => ?_, Exchange.reply_of_none call m, rfl⟩, hs.change hc⟩
      have ht := hs.sound.range
      rw [hA] at ht
      exact ht
  | 1, hc =>
      refine ⟨⟨m, ⟨_, hs.sound.range, ?_, ?_⟩, hs.unmarked, Exchange.reply_of_none call m, rfl⟩,
        hs.event hpos hfit hc⟩
      · split
        · exact hpos.2
        · exact hpos.1
      · split
        · exact hfit.2
        · exact hfit.1

/-- In a run in which one of the two came before the other the event was not late. -/
theorem isLate_of_isSerial (hs : s.Shared user c r start marker m h)
    (hA : carrierOf (s.keys.accrualSet c) user (Pool.ownCalls 0 h) = .named ∨
      c = r ∧ carrierOf (s.keys.accrualSet c) user (Pool.ownCalls 0 h) = .waiting)
    (hp : Pool.IsSerial h) : Pool.isLate (s.keys.accrualSet c) user h = false := by
  rcases hp with hp | hp
  · exact Pool.isLate_eq_false_of_le hp
  · rcases hA with hA | ⟨-, hA⟩
    · exact (hs.first hp hA).2
    · have hw := hs.sound
      rw [hA] at hw
      exact hw.late_eq_false

end Shared

end Shared

/-! ## No stored alert range -/

/-- What holds while a change of the alert range and an event are under way of a user that has
neither scores nor a session marker. -/
structure Vacant (s : Service) (user : String) (c start : Int) (m : Memory)
    (h : List (Nat × Exchange)) : Prop where
  bare : s.Bare user m
  credit : m.credit s.keys user = start
  unmarked : hasMarked s user (Pool.ownCalls 1 h) = false → s.marker m user = none
  reading : Exchange.lastRead (s.keys.accrualSet c) user (Pool.ownCalls 1 h) = 0
  punctual : Pool.isLate (s.keys.accrualSet c) user h = false

theorem gain_of_added (hc : call.added = 0) (set user : String) (m : Memory) :
    Exchange.gain set user ⟨call, m, none⟩ = 0 := by
  unfold Exchange.gain
  split
  · rename_i set' user' delta he
    obtain rfl : call = .store (.incrScore set' user' delta) := he
    rw [show delta = 0 from hc, ite_self]
  · rfl

namespace Vacant

theorem init (hb : s.Bare user m) (hm : s.marker m user = none) :
    s.Vacant user c (m.credit s.keys user) m [] := ⟨hb, rfl, fun _ => hm, rfl, rfl⟩

theorem step {i : Nat} {mayMark : Bool} (hs : s.Vacant user c start m h)
    (hc : s.IdleCall user mayMark call) (hi : mayMark = false ∨ i = 1) :
    s.Vacant user c start (Memory.serve call m).2 ((i, ⟨call, m, none⟩) :: h) := by
  obtain ⟨e, hp⟩ := hc.purse hs.bare
  have hlate : Pool.isLate (s.keys.accrualSet c) user ((i, ⟨call, m, none⟩) :: h) = false := by
    have hclosed : Exchange.closed (s.keys.accrualSet c) user ⟨call, m, none⟩
        (Pool.ownCalls 1 h) = 0 := by
      unfold Exchange.closed
      rw [hs.reading, ite_self]
    unfold Pool.isLate
    rw [gain_of_added hc.added, hclosed, hs.punctual]
    simp
  refine ⟨fun b => ?_, ?_, ?_, ?_, hlate⟩
  · exact (congrArg (fun p => p.score b) hp).trans (hs.bare b)
  · exact (congrArg Purse.credit hp).trans hs.credit
  · by_cases h1 : i = 1
    · subst h1
      rw [Pool.ownCalls_cons_self]
      intro hm
      obtain ⟨hm, hb⟩ := Bool.or_eq_false_iff.1 hm
      exact (marker_serve hm m).trans (hs.unmarked hb)
    · -- the other one does not renew the marker
      rw [Pool.ownCalls_cons_of_ne h1]
      rcases hi with rfl | hi
      · have hm := hc.mark.resolve_right Bool.false_ne_true
        exact fun hb => (marker_serve hm m).trans (hs.unmarked hb)
      · exact absurd hi h1
  · by_cases h1 : i = 1
    · subst h1
      rw [Pool.ownCalls_cons_self]
      unfold Exchange.lastRead
      rw [hs.reading, show Exchange.score (s.keys.accrualSet c) user ⟨call, m, none⟩ = 0 from
        hs.bare c, ite_self]
    · rw [Pool.ownCalls_cons_of_ne h1]
      exact hs.reading

theorem honours (s : Service) (user : String) (c start : Int) (i : Nat) :
    Pool.Honours (Pool.sharing (s.idling user false) (s.idling user true))
      (s.Vacant user c start) i none := by
  intro call m h hc hs
  rw [Exchange.after_of_none]
  match i, hc with
  | 0, hc =>
      exact ⟨⟨m, hs.bare, nofun, Exchange.reply_of_none call m, rfl⟩, hs.step hc (.inl rfl)⟩
  | 1, hc =>
      exact ⟨⟨m, hs.bare, fun _ => hs.unmarked, Exchange.reply_of_none call m, rfl⟩,
        hs.step hc (.inr rfl)⟩

end Vacant

/-! ## How the two end -/

/-- How a change of the alert range and an event have ended that began in some surroundings. -/
structure Ended (s : Service) (user : String) (e : Request) (m : Memory) (P : Pool) : Prop where
  intact_iff : (P.IsPlaced s user ∧
      P.memory.credit s.keys user = m.credit s.keys user + P.gained) ↔
    Pool.isLate (s.keys.accrualSet (s.rangeIn user m)) user P.history = false
  serial : Pool.IsSerial P.history →
    Pool.isLate (s.keys.accrualSet (s.rangeIn user m)) user P.history = false
  gained : P.gained = s.due (s.marker m user) e (readings s user (Pool.ownCalls 1 P.history))
  timely : s.marker m user ≠ none → e = .activity user →
    (readings s user (Pool.ownCalls 1 P.history)).length = 2

theorem due_none (s : Service) (e : Request) (ts : List Instant) : s.due none e ts = 0 := by
  unfold due
  split <;> rfl

/-- The gained seconds depend on the times alone. -/
theorem Ended.gained_eq {e : Request} {P P' : Pool} (hP : s.Ended user e m P)
    (hP' : s.Ended user e m P') (he : e = .activity user ∨ e = .heartbeat user)
    (hr : P.SameReadings s user P') : P'.gained = P.gained := by
  rw [hP.gained, hP'.gained]
  rcases he with rfl | rfl
  · by_cases hm : s.marker m user = none
    · rw [hm, due_none, due_none]
    · have h2 := hP.timely hm rfl
      have h2' := hP'.timely hm rfl
      rcases hr with hr | hr
      · rw [hr.eq_of_length (h2.trans h2'.symm)]
      · rw [hr.eq_of_length (h2'.trans h2.symm)]
  · rfl

theorem gained_of_threads {P : Pool} {a : Accrual}
    (h : P.threads = [.done (.ok .changed), .done (.ok (.accrual a))]) : P.gained = a.gained := by
  unfold Pool.gained Pool.sumEnds
  rw [h]
  show (0 : Int) + (a.gained + 0) = a.gained
  omega

section Runs

variable {e : Request} {as : List Move}

/-- A change and an event of a user whose alert range is stored. -/
theorem ended_of_stored (hp : s.PlacedFor m user) (ht : s.rangeText? m user ≠ none) (hr : 0 < r)
    (hfit : Signed64.Fits r) (he : e = .activity user ∨ e = .heartbeat user)
    (ha : (Pool.pair s m user r e).admits s Pool.unrefused as = true)
    (hend : ((Pool.pair s m user r e).play s as).isSettled = true) :
    s.Ended user e m ((Pool.pair s m user r e).play s as) := by
  obtain ⟨text, ht⟩ := Option.ne_none_iff_exists'.1 ht
  obtain ⟨-, hc0, hcf, rfl⟩ := hp.of_rangeText? ht
  generalize hc : s.rangeIn user m = c at ht hc0 hcf
  obtain ⟨x, y, hthreads, hs, ⟨rfl, hA⟩, a, rfl, hB⟩ := Pool.play_pair
    (K := Pool.sharing (s.carrying user c r) (s.attending user (s.marker m user)))
    (J := s.Shared user c r (m.credit s.keys user) (s.marker m user))
    (F := fun i => if i = 0 then fun report xs => report = .changed ∧
        (carrierOf (s.keys.accrualSet c) user xs = .named ∨
          c = r ∧ carrierOf (s.keys.accrualSet c) user xs = .waiting)
      else fun report xs => ∃ a, report = .accrual a ∧ s.Tells user (s.marker m user) e a xs)
    (.init hp ht) ((meets_changeRange ⟨hc0, hr⟩ hcf).bind fun _ _ h => meets_pure ⟨rfl, h⟩)
    (meets_perform he) (Shared.honours ⟨hc0, hr⟩ ⟨hcf, hfit⟩)
    (fun m h t hs => ⟨hs.sound, hs.unmarked, hs.reading, hs.first⟩) ha hend
  generalize (Pool.pair s m user r e).play s as = P at hthreads hs hA hB ⊢
  have hgained := gained_of_threads hthreads
  have hrange : s.rangeIn user P.memory = r := by
    rw [rangeIn_of_sound ⟨hc0, hr⟩ ⟨hcf, hfit⟩ hs.sound]
    rcases hA with hA | ⟨rfl, hA⟩
    · exact if_pos hA
    · exact ite_self _
  have hplaced : P.IsPlaced s user ↔ ∀ b, 0 < (P.memory.purse s user).score b → b = r := by
    unfold Pool.IsPlaced
    rw [s.run_resolve user, hrange]
    refine forall_congr' fun b => imp_congr_right fun _ => ?_
    exact ⟨fun h => (Outcome.ok.inj h).symm, fun h => congrArg _ h.symm⟩
  constructor
  · rw [hc, hplaced, hgained, ← hB.gained]
    exact hs.sound.settled_iff hA hB.owed
  · rw [hc]
    exact hs.isLate_of_isSerial hA
  · rw [hgained]
    exact hB.due
  · exact fun _ => hB.timely

/-- A change and an event of a user without scores and without a session marker. -/
theorem ended_of_bare (hb : s.Bare user m) (hm : s.marker m user = none) (hr : 0 < r)
    (he : e = .activity user ∨ e = .heartbeat user)
    (ha : (Pool.pair s m user r e).admits s Pool.unrefused as = true)
    (hend : ((Pool.pair s m user r e).play s as).isSettled = true) :
    s.Ended user e m ((Pool.pair s m user r e).play s as) := by
  have hevent : Meets (s.idling user true) (s.perform e)
      (fun report _ => ∃ a, report = .accrual a ∧ a.gained = 0) [] := by
    rcases he with rfl | rfl
    · exact (idles_onActivity s user).bind fun a _ ha => meets_pure ⟨a, rfl, ha⟩
    · exact (idles_onHeartbeat s user).bind fun a _ ha => meets_pure ⟨a, rfl, ha⟩
  obtain ⟨x, y, hthreads, hs, rfl, a, rfl, h0⟩ := Pool.play_pair
    (K := Pool.sharing (s.idling user false) (s.idling user true))
    (J := s.Vacant user (s.rangeIn user m) (m.credit s.keys user))
    (F := fun i => if i = 0 then fun report _ => report = .changed
      else fun report _ => ∃ a, report = .accrual a ∧ a.gained = 0)
    (.init hb hm) ((idles_changeRange s user hr).bind fun _ _ _ => meets_pure rfl) hevent
    (Vacant.honours s user _ _)
    (fun m h t hs => ⟨hs.bare, hs.credit, hs.unmarked, hs.reading, hs.punctual⟩) ha hend
  generalize (Pool.pair s m user r e).play s as = P at hthreads hs ⊢
  have hgained : P.gained = 0 := (gained_of_threads hthreads).trans h0
  refine ⟨iff_of_true ⟨fun b hpos => ?_, ?_⟩ hs.punctual, fun _ => hs.punctual, ?_,
    fun hne => absurd hm hne⟩
  · rw [hs.bare b] at hpos
    exact absurd hpos (Int.lt_irrefl 0)
  · rw [hgained, hs.credit, Int.add_zero]
  · rw [hgained, hm, due_none]

/-- A change and an event of a user, whatever has happened before from empty stores on. -/
theorem ended_of_proceed {m₀ : Memory} (hstore : m₀.store = {}) (hranges : s.RangesFit m₀)
    (hs : List Happening) (hf : ∀ h ∈ hs, h.InRange)
    (ho : ∀ e ∈ (m₀.proceed s hs).1, e.overflowed = false) (hr : 0 < r) (hfit : Signed64.Fits r)
    (he : e = .activity user ∨ e = .heartbeat user)
    (ha : (Pool.pair s (m₀.proceed s hs).2 user r e).admits s Pool.unrefused as = true)
    (hend : ((Pool.pair s (m₀.proceed s hs).2 user r e).play s as).isSettled = true) :
    s.Ended user e (m₀.proceed s hs).2 ((Pool.pair s (m₀.proceed s hs).2 user r e).play s as) := by
  have hp := (accounted_proceed hs (placed_of_empty hstore) hranges hf ho).placed user
  have hranged : s.Ranged user (m₀.proceed s hs).2 := by
    refine ranged_proceed hs fun _ => ?_
    unfold marker
    rw [hstore]
    rfl
  by_cases ht : s.rangeText? (m₀.proceed s hs).2 user = none
  · refine ended_of_bare (fun b => getScore_eq_zero fun x hx => ?_) (hranged ht) hr he ha hend
    -- scores stand in the bucket of a stored range only
    have := (hp.held b x hx).2
    rw [ht] at this
    cases this
  · exact ended_of_stored hp ht hr hfit he ha hend

end Runs

/-- From whatever has happened one thing after another, a change of the alert range and an event of
the same user side by side, when both have ended: the user has seconds in the bucket of the user
only, and the seconds that were there before with those that the event has gained, exactly if the
event was not late. These are the seconds that are there, in the bucket of the user, when one comes
after the other and the event reads the same times. -/
theorem placed_iff_isLate_eq_false (s : Service) {m₀ : Memory} (hstore : m₀.store = {})
    (hranges : s.RangesFit m₀) (hs : List Happening) (hf : ∀ h ∈ hs, h.InRange)
    (ho : ∀ e ∈ (m₀.proceed s hs).1, e.overflowed = false) {user : String} {r : Int} (hr : 0 < r)
    (hfit : Signed64.Fits r) {e : Request} (he : e = .activity user ∨ e = .heartbeat user)
    (as : List Move)
    (ha : (Pool.pair s (m₀.proceed s hs).2 user r e).admits s Pool.unrefused as = true)
    (hend : ((Pool.pair s (m₀.proceed s hs).2 user r e).play s as).isSettled = true) :
    let m := (m₀.proceed s hs).2
    let P := (Pool.pair s m user r e).play s as
    ((P.IsPlaced s user ∧ P.memory.credit s.keys user = m.credit s.keys user + P.gained) ↔
        Pool.isLate (s.keys.accrualSet (s.rangeIn user m)) user P.history = false) ∧
      ∀ bs : List Move, (Pool.pair s m user r e).admits s Pool.unrefused bs = true →
        let P' := (Pool.pair s m user r e).play s bs
        P'.isSettled = true → Pool.IsSerial P'.history → P.SameReadings s user P' →
          P'.IsPlaced s user ∧
            P'.memory.credit s.keys user = m.credit s.keys user + P.gained := by
  intro m P
  have hP := ended_of_proceed hstore hranges hs hf ho hr hfit he ha hend
  refine ⟨hP.intact_iff, ?_⟩
  intro bs hb P' hend' hserial hread
  have hP' := ended_of_proceed hstore hranges hs hf ho hr hfit he hb hend'
  -- who comes after the other is not late
  have hintact := hP'.intact_iff.2 (hP'.serial hserial)
  rw [hP.gained_eq hP' he hread] at hintact
  exact hintact

/-- Half a minute online. -/
def halfMinute : List Happening :=
  [.request (.activity "ada"), .clock (Clock.afterNoon 30), .request (.activity "ada")]

/-- An activity, ten seconds later, that asks for the alert range and reads the score before the
change reads it, and writes to the old bucket before the change takes the score away. -/
def timelyActivity : List Move :=
  .clock (Clock.afterNoon 40) ::
    (List.replicate 3 (.step 1 none) ++ [.step 0 none] ++ List.replicate 3 (.step 1 none) ++
      List.replicate 5 (.step 0 none))

/-- The same two, the change first. -/
def changeFirst : List Move :=
  .clock (Clock.afterNoon 40) ::
    (List.replicate 6 (.step 0 none) ++ List.replicate 6 (.step 1 none))

theorem placed_iff_isLate_eq_false_timelyActivity :
    let m := ((Memory.fresh Clock.noon).proceed standard halfMinute).2
    let P := (Pool.pair standard m "ada" 7 (.activity "ada")).play standard timelyActivity
    let P' := (Pool.pair standard m "ada" 7 (.activity "ada")).play standard changeFirst
    P.gained = 10 ∧ P.IsPlaced standard "ada" ∧
      P.memory.credit standard.keys "ada" = m.credit standard.keys "ada" + P.gained ∧
      P'.IsPlaced standard "ada" ∧
      P'.memory.credit standard.keys "ada" = m.credit standard.keys "ada" + P.gained := by
  have he : Request.activity "ada" = .activity "ada" ∨ Request.activity "ada" = .heartbeat "ada" :=
    .inl rfl
  have hranges : standard.RangesFit (Memory.fresh Clock.noon) := .fresh (by decide) (by decide) _
  have h := placed_iff_isLate_eq_false standard rfl hranges halfMinute (by decide)
    (by decide +kernel) (by decide : (0 : Int) < 7) (by decide) he timelyActivity
    (by decide +kernel) (by decide +kernel)
  obtain ⟨h1, h2⟩ := h.1.2 (by decide +kernel)
  exact ⟨by decide +kernel, h1, h2, h.2 changeFirst (by decide +kernel) (by decide +kernel)
    (by decide +kernel) (.inl ⟨[], by decide +kernel⟩)⟩

/-- An activity that writes to the old bucket after the change has taken the score away. -/
def lateActivity : List Move :=
  List.replicate 3 (.step 0 none) ++ [.clock (Clock.afterNoon 40)] ++
    List.replicate 6 (.step 1 none) ++ List.replicate 3 (.step 0 none)

/-- A late event can leave seconds in the old bucket, where nobody looks for them any more, so that
the two do not end as they would one after the other. -/
theorem orphaned_by_lateActivity :
    ¬ ∀ (s : Service) (m₀ : Memory), m₀.store = {} → m₀.ledger = {} → s.RangesFit m₀ →
      ∀ hs : List Happening, (∀ h ∈ hs, h.InRange) →
        (∀ e ∈ (m₀.proceed s hs).1, e.overflowed = false) →
      ∀ (user : String) (r : Int), 0 < r → Signed64.Fits r →
      ∀ e : Request, e = .activity user ∨ e = .heartbeat user →
      ∀ as : List Move,
        (Pool.pair s (m₀.proceed s hs).2 user r e).admits s Pool.unrefused as = true →
        ((Pool.pair s (m₀.proceed s hs).2 user r e).play s as).isSettled = true →
          let P := (Pool.pair s (m₀.proceed s hs).2 user r e).play s as
          P.IsPlaced s user ∧ ∃ bs : List Move,
            (Pool.pair s (m₀.proceed s hs).2 user r e).admits s Pool.unrefused bs = true ∧
              let P' := (Pool.pair s (m₀.proceed s hs).2 user r e).play s bs
              P'.isSettled = true ∧ Pool.IsSerial P'.history ∧ P.SameReadings s user P' ∧
                P.memory.credit s.keys user = P'.memory.credit s.keys user := by
  intro h
  have hp := (h standard (Memory.fresh Clock.noon) rfl rfl (.fresh (by decide) (by decide) _)
    halfMinute (by decide) (by decide +kernel) "ada" 7 (by decide) (by decide) (.activity "ada")
    (.inl rfl) lateActivity (by decide +kernel) (by decide +kernel)).1
  -- ten seconds stand in the bucket 5, but the bucket of the user is 7
  exact absurd (hp 5 (by decide +kernel)) (by decide +kernel)

end Service

end Presence
