import Presence.Proofs.Placement

/-!
# Accrued time that is moved while an event works on it

A change of the alert range reads the accrued time of a user in the old bucket, takes the entry
away, adds what it has read to the new bucket, and names the new bucket at last. An event of the user
has read which bucket it is to work on, and what stands there, some time before it writes. `Sound` says
where the seconds of the user are at every point of the two: none has been lost or doubled, and none
stands where nobody looks for it, unless the event was late, that is, it has written to the old
bucket what the change has already read there; then the seconds are wrong, and stay wrong. Main
statements: one theorem for each call of the change (`Sound.read`, `Sound.lift`, `Sound.drop`,
`Sound.name`) and of the event (`Sound.ask`, `Sound.hold`, `Sound.reset`, `Sound.gain`,
`Sound.spend`).
-/

set_option autoImplicit false

namespace Presence

/-- How far a change of the alert range has come. -/
inductive Carrier where
  /-- It has not read the accrued seconds. -/
  | waiting
  /-- It has read them. -/
  | seen (n : Int)
  /-- It has taken the entry out of the old bucket. -/
  | lifted (n : Int)
  /-- It has added what it has read to the new bucket. -/
  | dropped
  /-- It has stored the new range. -/
  | named
  deriving DecidableEq

namespace Carrier

/-- The seconds that the change has read and not yet added to the new bucket. -/
def carried : Carrier → Int
  | seen n | lifted n => n
  | _ => 0

/-- The entry was taken out of the old bucket. -/
def hasLifted : Carrier → Bool
  | lifted _ | dropped | named => true
  | _ => false

/-- The seconds by which the accrued time will grow until the change has ended, if the score in the
old bucket stays. -/
def surplus (A : Carrier) (score : Int) : Int :=
  match A with
  | seen n => n - score
  | lifted n => n
  | _ => 0

/-- If the score is set to zero behind a change that has read it, the change adds it once more. -/
theorem surplus_zero {A : Carrier} {score : Int} (hA : A ≠ .waiting)
    (h : A.hasLifted = true → score = 0) : A.surplus 0 = A.surplus score + score := by
  cases A with
  | waiting => exact absurd rfl hA
  | seen n =>
      show n - 0 = n - score + score
      omega
  | lifted n =>
      rw [h rfl]
      exact (Int.add_zero n).symm
  | dropped =>
      rw [h rfl]
      rfl
  | named =>
      rw [h rfl]
      rfl

end Carrier

/-- How far an event has come. -/
inductive Stage where
  /-- It has not read the alert range. -/
  | fresh
  /-- It has read which bucket is that of the user. -/
  | bound (b : Int)
  /-- It has read the score there. -/
  | holding (b n : Int)
  /-- It has set the score to zero, and is to add what it has read to the day. -/
  | owing (n : Int)
  /-- It writes nothing any more; the seconds that it has gained. -/
  | settled (gain : Int)
  deriving DecidableEq

namespace Stage

/-- The bucket that the event is going to write to. -/
def bucket? : Stage → Option Int
  | bound b | holding b _ => some b
  | _ => none

def owed : Stage → Int
  | owing n => n
  | _ => 0

def gained : Stage → Int
  | settled gain => gain
  | _ => 0

/-- The event has written to the bucket. -/
def hasWritten : Stage → Bool
  | owing _ | settled _ => true
  | _ => false

@[simp]
theorem owed_holding (b n : Int) : (holding b n).owed = 0 := rfl

@[simp]
theorem gained_holding (b n : Int) : (holding b n).gained = 0 := rfl

theorem bucket?_of_hasWritten {B : Stage} (h : B.hasWritten = true) : B.bucket? = none := by
  cases B with
  | fresh => cases h
  | bound b => cases h
  | holding b n => cases h
  | owing n => rfl
  | settled gain => rfl

end Stage

/-- What the presence store and the daily statistics hold of a user: the text of the alert range,
the score in every bucket, and all seconds together. -/
structure Purse where
  range : Option StoredText
  score : Int → Int
  credit : Int

/-- Writes a score. -/
def Purse.put (p : Purse) (b v : Int) : Purse :=
  { p with
    score := fun b' => if b' = b then v else p.score b'
    credit := p.credit + (v - p.score b) }

namespace Purse

variable (p : Purse) (b v : Int)

@[simp]
theorem score_put (b' : Int) : (p.put b v).score b' = if b' = b then v else p.score b' := rfl

@[simp]
theorem credit_put : (p.put b v).credit = p.credit + (v - p.score b) := rfl

variable {p b v}

/-- Writing what stands there changes nothing. -/
theorem put_self (h : p.score b = v) : p.put b v = p := by
  have hs : (fun b' => if b' = b then v else p.score b') = p.score := by
    funext b'
    split
    · rename_i e
      rw [e, h]
    · rfl
  unfold put
  rw [hs, h, Int.sub_self, Int.add_zero]

end Purse

/-- The seconds that are too many, from `start` on: what is there, what is owed to the day and what
the change still adds, less what the event has gained. -/
def balance (c start : Int) (p : Purse) (A : Carrier) (B : Stage) : Int :=
  p.credit + B.owed - B.gained + A.surplus (p.score c) - start

/-- Where the seconds of a user are while a change from the range `c` to the range `r` and an event
work side by side. -/
structure Sound (c r start : Int) (p : Purse) (A : Carrier) (B : Stage) (late : Bool) : Prop where
  range : p.range = some ⟨toString (if A = .named then r else c), none⟩
  nonneg : ∀ b, 0 ≤ p.score b
  others : ∀ b, b ≠ c → b ≠ r → p.score b = 0
  /-- Nothing is moved if the range stays the same. -/
  apart : A ≠ .waiting → c ≠ r
  carried_nonneg : 0 ≤ A.carried
  /-- An event works on the old bucket, or on the new one once it has been named. -/
  place : ∀ b, B.bucket? = some b → b = c ∨ b = r ∧ A = .named
  /-- What an event has read still stands there, unless the change has taken it away. -/
  held : ∀ b n, B = .holding b n → 0 ≤ n ∧ ((b = c → A.hasLifted = false) → p.score b = n)
  kept : late = false → balance c start p A B = 0 ∧ (A.hasLifted = true → p.score c = 0) ∧
    ∀ n, A = .seen n → p.score c = n
  spoilt : late = true → A ≠ .waiting ∧ B.hasWritten = true ∧
    (balance c start p A B ≠ 0 ∨ A.hasLifted = true ∧ 0 < p.score c)

namespace Sound

variable {c r start : Int} {p : Purse} {A A' : Carrier} {B : Stage} {late : Bool}

/-- Before either has made a call. -/
theorem init (hr : p.range = some ⟨toString c, none⟩) (h0 : ∀ b, 0 ≤ p.score b)
    (ho : ∀ b, b ≠ c → p.score b = 0) : Sound c r p.credit p .waiting .fresh false where
  range := hr
  nonneg := h0
  others b hc _ := ho b hc
  apart hA := absurd rfl hA
  carried_nonneg := Int.le_refl 0
  place b hb := nomatch hb
  held b n hn := nomatch hn
  kept _ := by
    refine ⟨?_, (fun e => nomatch e), fun n e => nomatch e⟩
    simp only [balance, Carrier.surplus, Stage.owed, Stage.gained]
    omega
  spoilt hl := nomatch hl

/-! ## The calls of the change -/

/-- Nobody is late before the change has read the score. -/
theorem late_eq_false (h : Sound c r start p .waiting B late) : late = false := by
  cases late with
  | false => rfl
  | true => exact absurd rfl (h.spoilt rfl).1

/-- Until the new range is named an event works on the old bucket. -/
theorem eq_of_bucket? (h : Sound c r start p A B late) (hA : A ≠ .named) {b : Int}
    (hb : B.bucket? = some b) : b = c :=
  (h.place b hb).resolve_right fun e => hA e.2

/-- What an event has read in the old bucket need not stand there any more once the change has taken
the entry out. -/
theorem held_of_hasLifted (h : Sound c r start p A B late) (hA : A ≠ .named)
    (hl : A'.hasLifted = true) (p' : Purse) (b n : Int) (hn : B = .holding b n) :
    0 ≤ n ∧ ((b = c → A'.hasLifted = false) → p'.score b = n) := by
  refine ⟨(h.held b n hn).1, fun hb => ?_⟩
  have hc : b = c := h.eq_of_bucket? hA (by rw [hn]; rfl)
  rw [hl] at hb
  exact absurd (hb hc) Bool.noConfusion

/-- The change reads the score in the old bucket. -/
theorem read (h : Sound c r start p .waiting B late) (hne : c ≠ r) :
    Sound c r start p (.seen (p.score c)) B late := by
  have hkept : balance c start p (.seen (p.score c)) B = 0 := by
    have hb := (h.kept h.late_eq_false).1
    simp only [balance, Carrier.surplus] at hb ⊢
    omega
  exact { h with
    range := h.range
    apart := fun _ => hne
    carried_nonneg := h.nonneg c
    place := fun b hb => .inl (h.eq_of_bucket? Carrier.noConfusion hb)
    held := fun b n hn => ⟨(h.held b n hn).1, fun _ => (h.held b n hn).2 fun _ => rfl⟩
    kept := fun _ => ⟨hkept, (fun e => nomatch e), fun n hn => Carrier.seen.inj hn⟩
    spoilt := fun hl => absurd (h.late_eq_false.symm.trans hl) Bool.false_ne_true }

/-- The change takes the entry out of the old bucket. -/
theorem lift {n : Int} (h : Sound c r start p (.seen n) B late) :
    Sound c r start (p.put c 0) (.lifted n) B late := by
  have hbalance : balance c start (p.put c 0) (.lifted n) B = balance c start p (.seen n) B := by
    simp only [balance, Carrier.surplus, Purse.credit_put]
    omega
  refine { h with
    range := h.range
    apart := fun _ => h.apart Carrier.noConfusion
    nonneg := fun b => ?_
    others := fun b hc hr => ?_
    place := fun b hb => .inl (h.eq_of_bucket? Carrier.noConfusion hb)
    held := h.held_of_hasLifted Carrier.noConfusion rfl _
    kept := fun hl => ?_
    spoilt := fun hl => ?_ }
  · rw [Purse.score_put]
    split
    · exact Int.le_refl 0
    · exact h.nonneg b
  · rw [Purse.score_put, if_neg hc]
    exact h.others b hc hr
  · exact ⟨hbalance.trans (h.kept hl).1, fun _ => if_pos rfl, fun m hm => nomatch hm⟩
  · obtain ⟨-, hw, hb⟩ := h.spoilt hl
    rw [hbalance]
    exact ⟨Carrier.noConfusion, hw, .inl (hb.resolve_right fun e => nomatch e.1)⟩

/-- The change adds what it has read to the new bucket. -/
theorem drop {n : Int} (h : Sound c r start p (.lifted n) B late) :
    Sound c r start (p.put r (p.score r + n)) .dropped B late := by
  have hne : c ≠ r := h.apart Carrier.noConfusion
  have hscore : (p.put r (p.score r + n)).score c = p.score c := if_neg hne
  have hbalance : balance c start (p.put r (p.score r + n)) .dropped B =
      balance c start p (.lifted n) B := by
    simp only [balance, Carrier.surplus, Purse.credit_put]
    omega
  refine { h with
    range := h.range
    apart := fun _ => hne
    nonneg := fun b => ?_
    others := fun b hc hr => ?_
    carried_nonneg := Int.le_refl 0
    place := fun b hb => .inl (h.eq_of_bucket? Carrier.noConfusion hb)
    held := h.held_of_hasLifted Carrier.noConfusion rfl _
    kept := fun hl => ?_
    spoilt := fun hl => ?_ }
  · rw [Purse.score_put]
    split
    · exact Int.add_nonneg (h.nonneg r) h.carried_nonneg
    · exact h.nonneg b
  · rw [Purse.score_put, if_neg hr]
    exact h.others b hc hr
  · obtain ⟨hb, hz, -⟩ := h.kept hl
    exact ⟨hbalance.trans hb, fun _ => hscore.trans (hz rfl), fun m hm => nomatch hm⟩
  · obtain ⟨-, hw, hb⟩ := h.spoilt hl
    rw [hbalance, hscore]
    exact ⟨Carrier.noConfusion, hw, hb⟩

/-- The change names the new range. -/
theorem name (h : Sound c r start p .dropped B late) :
    Sound c r start { p with range := some ⟨toString r, none⟩ } .named B late :=
  { h with
    range := rfl
    apart := fun _ => h.apart Carrier.noConfusion
    place := fun _ hb => .inl (h.eq_of_bucket? Carrier.noConfusion hb)
    held := h.held_of_hasLifted Carrier.noConfusion rfl _
    kept := fun hl => ⟨(h.kept hl).1, (h.kept hl).2.1, fun _ hn => nomatch hn⟩
    spoilt := fun hl => ⟨Carrier.noConfusion, (h.spoilt hl).2⟩ }

/-- A change to the same range stores it again. -/
theorem keep (h : Sound c r start p .waiting B late) (he : c = r) :
    Sound c r start { p with range := some ⟨toString r, none⟩ } .waiting B late :=
  { h with
    range := by
      rw [he]
      rfl }

/-! ## The calls of the event -/

/-- Who has yet to write is not late. -/
theorem late_eq_false_of_hasWritten (h : Sound c r start p A B late) (hw : B.hasWritten = false) :
    late = false := by
  cases late with
  | false => rfl
  | true =>
      have := (h.spoilt rfl).2.1
      rw [hw] at this
      cases this

/-- The event reads the alert range. -/
theorem ask (h : Sound c r start p A .fresh late) :
    Sound c r start p A (.bound (if A = .named then r else c)) late := by
  refine { h with
    place := fun b hb => ?_
    held := fun _ _ hn => nomatch hn
    kept := h.kept
    spoilt := fun hl => nomatch (h.spoilt hl).2.1 }
  obtain rfl := Option.some.inj hb
  split
  · rename_i hA
    exact .inr ⟨rfl, hA⟩
  · exact .inl rfl

/-- The event reads the score in its bucket. -/
theorem hold {b : Int} (h : Sound c r start p A (.bound b) late) :
    Sound c r start p A (.holding b (p.score b)) late := by
  refine { h with
    place := h.place
    held := fun b' n hn => ?_
    kept := h.kept
    spoilt := fun hl => nomatch (h.spoilt hl).2.1 }
  obtain ⟨rfl, rfl⟩ := Stage.holding.inj hn
  exact ⟨h.nonneg _, fun _ => rfl⟩

section Write

variable {b n v : Int} {B' : Stage} {late' : Bool}

/-- A write of the event to its bucket: what is left to show is what becomes of the seconds. -/
theorem write (h : Sound c r start p A (.holding b n) late) (hv : 0 ≤ v)
    (hw : B'.hasWritten = true)
    (hkept : late' = false → balance c start (p.put b v) A B' = 0 ∧
      (A.hasLifted = true → (p.put b v).score c = 0) ∧
        ∀ m, A = .seen m → (p.put b v).score c = m)
    (hspoilt : late' = true → A ≠ .waiting ∧ (balance c start (p.put b v) A B' ≠ 0 ∨
      A.hasLifted = true ∧ 0 < (p.put b v).score c)) :
    Sound c r start (p.put b v) A B' late' := by
  refine { h with
    nonneg := fun b' => ?_
    others := fun b' hc hr => ?_
    place := fun b' hb => ?_
    held := fun b' m hm => ?_
    kept := hkept
    spoilt := fun hl => ⟨(hspoilt hl).1, hw, (hspoilt hl).2⟩ }
  · rw [Purse.score_put]
    split
    · exact hv
    · exact h.nonneg b'
  · have hb : b' ≠ b := by
      rintro rfl
      rcases h.place b' rfl with hb | hb
      · exact hc hb
      · exact hr hb.1
    rw [Purse.score_put, if_neg hb]
    exact h.others b' hc hr
  · rw [Stage.bucket?_of_hasWritten hw] at hb
    cases hb
  · rw [hm] at hw
    cases hw

/-- A write to another bucket than the old one changes what stands there, and nothing else. -/
theorem write_of_ne (h : Sound c r start p A (.holding b n) late) (hb : b ≠ c) (hv : 0 ≤ v)
    (hw : B'.hasWritten = true) (hn : v + B'.owed - B'.gained = n) :
    Sound c r start (p.put b v) A B' false := by
  have hs : p.score b = n := (h.held b n rfl).2 fun e => absurd e hb
  have hc : (p.put b v).score c = p.score c := if_neg fun e => hb e.symm
  obtain ⟨hbal, hl, hm⟩ := h.kept (h.late_eq_false_of_hasWritten rfl)
  refine h.write hv hw (fun _ => ?_) fun e => nomatch e
  refine ⟨?_, fun hA => hc.trans (hl hA), fun m hA => hc.trans (hm m hA)⟩
  simp only [balance, hc, Purse.credit_put, Stage.owed_holding, Stage.gained_holding] at hbal ⊢
  omega

/-- A write to the old bucket before the change has read what stands there. -/
theorem write_of_waiting (h : Sound c r start p .waiting (.holding c n) late) (hv : 0 ≤ v)
    (hw : B'.hasWritten = true) (hn : v + B'.owed - B'.gained = n) :
    Sound c r start (p.put c v) .waiting B' false := by
  have hs : p.score c = n := (h.held c n rfl).2 fun _ => rfl
  have hbal := (h.kept h.late_eq_false).1
  refine h.write hv hw (fun _ => ⟨?_, (fun e => nomatch e), fun m e => nomatch e⟩)
    fun e => nomatch e
  simp only [balance, Carrier.surplus, Purse.credit_put, Stage.owed_holding,
    Stage.gained_holding] at hbal ⊢
  omega

end Write

/-- The event sets the score to zero and owes what it has read to the day. If the change has read
the same seconds, it will add them to the new bucket as well. -/
theorem reset {b n : Int} (h : Sound c r start p A (.holding b n) late) :
    Sound c r start (p.put b 0) A (if 0 < n then .owing n else .settled 0)
      (decide (A ≠ .waiting) && (decide (b = c) && decide (0 < n))) := by
  have h0 := (h.held b n rfl).1
  have howed : (if 0 < n then Stage.owing n else .settled 0).owed = n := by
    split
    · rfl
    · show (0 : Int) = n
      omega
  have hgained : (if 0 < n then Stage.owing n else .settled 0).gained = 0 := by split <;> rfl
  have hw : (if 0 < n then Stage.owing n else .settled 0).hasWritten = true := by split <;> rfl
  have hn : 0 + (if 0 < n then Stage.owing n else .settled 0).owed -
      (if 0 < n then Stage.owing n else .settled 0).gained = n := by
    rw [howed, hgained]
    omega
  by_cases hb : b = c
  · subst hb
    by_cases hA : A = .waiting
    · -- the change has yet to read the score, and finds nothing
      subst hA
      rw [decide_eq_false fun e => e rfl, Bool.false_and]
      exact h.write_of_waiting (Int.le_refl 0) hw hn
    · -- the change adds the same seconds once more
      obtain ⟨hbal, hlift, hseen⟩ := h.kept (h.late_eq_false_of_hasWritten rfl)
      have hz : (p.put b 0).score b = 0 := if_pos rfl
      have hbalance : balance b start (p.put b 0) A
          (if 0 < n then .owing n else .settled 0) = n := by
        have hs := Carrier.surplus_zero hA hlift
        simp only [balance, hz, hs, howed, hgained, Purse.credit_put, Stage.owed_holding,
          Stage.gained_holding] at hbal ⊢
        omega
      rw [decide_eq_true hA, decide_eq_true rfl, Bool.true_and, Bool.true_and]
      refine h.write (Int.le_refl 0) hw (fun hl => ?_) fun hl => ⟨hA, .inl ?_⟩
      · have hn0 : n = 0 := by
          have := of_decide_eq_false hl
          omega
        refine ⟨hbalance.trans hn0, fun _ => hz, fun m hm => ?_⟩
        have hs := (h.held b n rfl).2 fun _ => by rw [hm]; rfl
        have := hseen m hm
        omega
      · have := of_decide_eq_true hl
        omega
  · rw [decide_eq_false hb, Bool.false_and, Bool.and_false]
    exact h.write_of_ne hb (Int.le_refl 0) hw hn

/-- The event adds a gap to the score. If the change has read the score, it will take the gap away,
or leave it in the old bucket. -/
theorem gain {b n gap : Int} (h : Sound c r start p A (.holding b n) late) (hg : 0 < gap) :
    Sound c r start (p.put b (p.score b + gap)) A (.settled gap)
      (decide (A ≠ .waiting) && decide (b = c)) := by
  have hv : 0 ≤ p.score b + gap := Int.add_nonneg (h.nonneg b) (Int.le_of_lt hg)
  have hn (hs : p.score b = n) :
      p.score b + gap + (Stage.settled gap).owed - (Stage.settled gap).gained = n := by
    show p.score b + gap + 0 - gap = n
    omega
  by_cases hb : b = c
  · subst hb
    by_cases hA : A = .waiting
    · -- the change has yet to read the score, and finds the gap there
      subst hA
      rw [decide_eq_false fun e => e rfl, Bool.false_and]
      exact h.write_of_waiting hv rfl (hn ((h.held b n rfl).2 fun _ => rfl))
    · obtain ⟨hbal, hlift, hseen⟩ := h.kept (h.late_eq_false_of_hasWritten rfl)
      have hz : (p.put b (p.score b + gap)).score b = p.score b + gap := if_pos rfl
      rw [decide_eq_true hA, decide_eq_true rfl, Bool.true_and]
      refine h.write hv rfl (fun hl => nomatch hl) fun _ => ⟨hA, ?_⟩
      rw [hz]
      cases hl : A.hasLifted with
      | true =>
          have := hlift hl
          exact .inr ⟨rfl, by omega⟩
      | false =>
          -- the gap is taken away with the entry, and is not carried over
          cases A with
          | seen m =>
              have hm := hseen m rfl
              refine .inl ?_
              simp only [balance, Carrier.surplus, hz, Purse.credit_put, Stage.owed,
                Stage.gained] at hbal ⊢
              omega
          | waiting => exact absurd rfl hA
          | lifted m => cases hl
          | dropped => cases hl
          | named => cases hl
  · rw [decide_eq_false hb, Bool.and_false]
    exact h.write_of_ne hb hv rfl (hn ((h.held b n rfl).2 fun e => absurd e hb))

/-- The event adds to the day what it owes. -/
theorem spend {n : Int} (h : Sound c r start p A (.owing n) late) :
    Sound c r start { p with credit := p.credit + n } A (.settled 0) late := by
  have hbalance : balance c start { p with credit := p.credit + n } A (.settled 0) =
      balance c start p A (.owing n) := by
    simp only [balance, Stage.owed, Stage.gained]
    omega
  exact { h with
    place := fun b hb => nomatch hb
    held := fun b m hm => nomatch hm
    kept := fun hl => ⟨hbalance.trans (h.kept hl).1, (h.kept hl).2⟩
    spoilt := fun hl => by
      rw [hbalance]
      exact ⟨(h.spoilt hl).1, rfl, (h.spoilt hl).2.2⟩ }

/-! ## The end -/

/-- When both have ended, the seconds stand in the bucket of the new range and are as many as before
with those that were gained, unless the event was late. -/
theorem settled_iff (h : Sound c r start p A B late) (hA : A = .named ∨ c = r ∧ A = .waiting)
    (hB : B.owed = 0) :
    ((∀ b, 0 < p.score b → b = r) ∧ p.credit = start + B.gained) ↔ late = false := by
  have hbalance : balance c start p A B = p.credit - B.gained - start := by
    rcases hA with rfl | ⟨-, rfl⟩
    · simp only [balance, Carrier.surplus]
      omega
    · simp only [balance, Carrier.surplus]
      omega
  cases late with
  | false =>
      refine iff_of_true ⟨fun b hb => ?_, ?_⟩ rfl
      · by_contra hne
        have hc : b = c := by
          by_contra hc
          rw [h.others b hc hne] at hb
          exact Int.lt_irrefl 0 hb
        -- a score in the old bucket was taken away, if the range is another one
        subst hc
        rcases hA with rfl | ⟨he, -⟩
        · rw [(h.kept rfl).2.1 rfl] at hb
          exact Int.lt_irrefl 0 hb
        · exact hne he
      · have := (h.kept rfl).1
        omega
  | true =>
      refine iff_of_false (fun hs => ?_) Bool.noConfusion
      obtain ⟨hw, -, hb | ⟨-, hb⟩⟩ := h.spoilt rfl
      · exact hb (by omega)
      · exact h.apart hw (hs.1 c hb)

end Sound

end Presence
