import Mathlib.Algebra.Order.BigOperators.Group.List
import Mathlib.Algebra.Ring.Int.Defs
import Presence.Ledger
import Presence.Store
import Presence.Proofs.Keys

/-!
# Accrued and spent seconds as sums

The accrued seconds of a user are the sum of the scores of the user over all accrual sets
(`Store.accrued`), and the spent seconds are the sum of the daily records (`Ledger.spent`,
`Ledger.total`). Main statements: what each write of the store and of the statistics does to these
sums (`Store.accrued_setScore`, `Store.accrued_removeMember`, `Ledger.spent_add`,
`Ledger.total_add`).
-/

set_option autoImplicit false

namespace Presence

namespace Table

universe u v

variable {κ : Type u} {β : Type v} [Ord κ]

/-- The sum of a quantity over the entries of a table. -/
def sum (f : κ → β → Int) (t : Table κ β) : Int := (t.entries.map fun p => f p.1 p.2).sum

variable [Std.TransOrd κ] [Std.LawfulEqOrd κ]

omit [Std.TransOrd κ] [Std.LawfulEqOrd κ] in
theorem find?_eq_none_of_lt {k : κ} {l : List (κ × β)} (h : ∀ p ∈ l, compare k p.1 = .lt) :
    find? k l = none := by
  induction l with
  | nil => rfl
  | cons q rest ih =>
      have hq := h q List.mem_cons_self
      simp only [find?, hq, reduceCtorEq, if_false]
      exact ih fun p hp => h p (List.mem_cons_of_mem _ hp)

theorem sum_place (f : κ → β → Int) (k : κ) (v : β) {l : List (κ × β)}
    (h : l.Pairwise fun a b => compare a.1 b.1 = .lt) :
    ((place k v l).map fun p => f p.1 p.2).sum =
      (l.map fun p => f p.1 p.2).sum - (find? k l).elim 0 (f k) + f k v := by
  induction l with
  | nil => simp [place, find?]
  | cons q rest ih =>
      obtain ⟨k', v'⟩ := q
      rw [List.pairwise_cons] at h
      unfold place
      split
      · rename_i hlt
        -- the key is before all others, so there was no value
        have hnone : find? k ((k', v') :: rest) = none := by
          refine find?_eq_none_of_lt fun p hp => ?_
          rcases List.mem_cons.1 hp with rfl | hp
          · exact hlt
          · exact Std.TransCmp.lt_trans hlt (h.1 p hp)
        rw [hnone]
        simp only [List.map_cons, List.sum_cons, Option.elim]
        omega
      · rename_i heq
        -- the value at the key is replaced
        have hk : k = k' := compare_eq_iff.1 heq
        subst hk
        simp only [List.map_cons, List.sum_cons, find?, heq, if_true, Option.elim]
        omega
      · rename_i hgt
        have hne : compare k k' ≠ .eq := by rw [hgt]; decide
        simp only [List.map_cons, List.sum_cons, find?, if_neg hne, ih h.2]
        omega

/-- A write replaces what the key contributed. -/
theorem sum_set (f : κ → β → Int) (t : Table κ β) (k : κ) (v : β) :
    (t.set k v).sum f = t.sum f - (t.get? k).elim 0 (f k) + f k v :=
  sum_place f k v t.ascending

omit [Std.TransOrd κ] in
theorem sum_nonneg {f : κ → β → Int} {t : Table κ β}
    (h : ∀ k v, t.get? k = some v → 0 ≤ f k v) : 0 ≤ t.sum f := by
  refine List.sum_nonneg fun x hx => ?_
  obtain ⟨p, hp, rfl⟩ := List.mem_map.1 hx
  exact h p.1 p.2 (get?_eq_some_iff.2 hp)

/-- The sum without what one key contributes. -/
theorem sum_erase (f : κ → β → Int) (t : Table κ β) (k : κ) :
    (t.erase k).sum f = t.sum f - (t.get? k).elim 0 (f k) := by
  cases h : t.get? k with
  | none =>
      have he : t.erase k = t := ext_get? fun k' => by
        by_cases hk : k' = k
        · rw [hk, h, get?_erase_self]
        · exact get?_erase_of_ne t hk
      rw [he, Option.elim_none, Int.sub_zero]
  | some v =>
      have he : (t.erase k).set k v = t := ext_get? fun k' => by
        by_cases hk : k' = k
        · rw [hk, h, get?_set_self]
        · rw [get?_set_of_ne _ _ hk, get?_erase_of_ne t hk]
      have hs := sum_set f (t.erase k) k v
      rw [he, get?_erase_self, Option.elim_none] at hs
      rw [Option.elim_some]
      omega

/-- A sum to which only one key contributes. -/
theorem sum_eq_of_support {f : κ → β → Int} {t : Table κ β} {k : κ}
    (h : ∀ k' v, t.get? k' = some v → k' ≠ k → f k' v = 0) :
    t.sum f = (t.get? k).elim 0 (f k) := by
  have hs := sum_erase f t k
  have hz : (t.erase k).sum f = 0 := by
    refine List.sum_eq_zero fun x hx => ?_
    obtain ⟨p, hp, rfl⟩ := List.mem_map.1 hx
    have hg : (t.erase k).get? p.1 = some p.2 := get?_eq_some_iff.2 hp
    have hne : p.1 ≠ k := by
      intro e
      rw [e, get?_erase_self] at hg
      cases hg
    rw [get?_erase_of_ne t hne] at hg
    exact h p.1 p.2 hg hne
  omega

end Table

namespace Store

variable (k : Keys)

/-- The accrued seconds of a user in all accrual sets together. -/
def accrued (s : Store) (user : String) : Int :=
  s.sets.sum fun name ms => if (k.bucket? name).isSome then ms.getD user 0 else 0

variable {k} (s : Store)

theorem elim_get?_accrualSet (b : Int) (user : String) :
    (s.sets.get? (k.accrualSet b)).elim 0 (fun ms => ms.getD user 0) =
      s.getScore (k.accrualSet b) user := by
  unfold getScore members Table.getD
  cases s.sets.get? (k.accrualSet b) <;> rfl

/-- Writing a score of an accrual set replaces the score that was there. -/
theorem accrued_setScore (b : Int) (member user : String) (value : Int) :
    (s.setScore (k.accrualSet b) member value).accrued k user =
      s.accrued k user +
        if user = member then value - s.getScore (k.accrualSet b) member else 0 := by
  unfold accrued setScore
  rw [Table.sum_set]
  simp only [Keys.bucket?_accrualSet, Option.isSome_some, if_true, elim_get?_accrualSet]
  by_cases h : user = member
  · subst h
    simp only [if_true, Table.getD, Table.get?_set_self, Option.getD_some]
    omega
  · have hm : ((s.members (k.accrualSet b)).set member value).getD user 0 =
        s.getScore (k.accrualSet b) user := by
      rw [Table.getD, Table.get?_set_of_ne _ _ h]
      rfl
    rw [hm, if_neg h]
    omega

/-- A set that belongs to no bucket has no part in the accrued time. -/
theorem accrued_setScore_of_bucket?_eq_none {set : String} (h : k.bucket? set = none)
    (member user : String) (value : Int) :
    (s.setScore set member value).accrued k user = s.accrued k user := by
  unfold accrued setScore
  rw [Table.sum_set]
  simp only [h, Option.isSome_none, Bool.false_eq_true, if_false]
  cases s.sets.get? set <;> simp

theorem accrued_removeMember (b : Int) (member user : String) :
    (s.removeMember (k.accrualSet b) member).accrued k user =
      s.accrued k user - if user = member then s.getScore (k.accrualSet b) member else 0 := by
  unfold removeMember
  cases h : s.sets.get? (k.accrualSet b) with
  | none =>
      have h0 : s.getScore (k.accrualSet b) member = 0 := by
        rw [← elim_get?_accrualSet, h, Option.elim_none]
      simp only [h0, ite_self, Int.sub_zero]
  | some ms =>
      unfold accrued
      rw [Table.sum_set]
      simp only [Keys.bucket?_accrualSet, Option.isSome_some, if_true, elim_get?_accrualSet]
      have hg : ∀ v, s.getScore (k.accrualSet b) v = ms.getD v 0 := fun v => by
        rw [← elim_get?_accrualSet, h, Option.elim_some]
      rw [hg, hg]
      by_cases hu : user = member
      · subst hu
        simp only [Table.getD, Table.get?_erase_self, Option.getD_none, if_true]
        omega
      · simp only [Table.getD, Table.get?_erase_of_ne _ hu, if_neg hu]
        omega

theorem accrued_removeMember_of_ne {member user : String} (h : user ≠ member) (set : String) :
    (s.removeMember set member).accrued k user = s.accrued k user := by
  cases hb : k.bucket? set with
  | some b =>
      rw [Keys.bucket?_eq_some_iff.1 hb, accrued_removeMember, if_neg h, Int.sub_zero]
  | none =>
      unfold removeMember
      cases s.sets.get? set with
      | none => rfl
      | some ms =>
          unfold accrued
          rw [Table.sum_set]
          simp only [hb, Option.isSome_none, Bool.false_eq_true, if_false]
          cases s.sets.get? set <;> simp

/-- Every score of an accrual set is one of the scores that are added up. -/
theorem exists_bucket_of_get? {name : String} {ms : Table String Int}
    (h : s.sets.get? name = some ms) (hb : (k.bucket? name).isSome) (user : String) :
    ∃ b, name = k.accrualSet b ∧ ms.getD user 0 = s.getScore (k.accrualSet b) user := by
  obtain ⟨b, hb⟩ := Option.isSome_iff_exists.1 hb
  have hn := Keys.bucket?_eq_some_iff.1 hb
  refine ⟨b, hn, ?_⟩
  rw [← elim_get?_accrualSet, ← hn, h, Option.elim_some]

theorem accrued_nonneg {user : String} (h : ∀ b, 0 ≤ s.getScore (k.accrualSet b) user) :
    0 ≤ s.accrued k user := by
  refine Table.sum_nonneg fun name ms hg => ?_
  split
  · rename_i hb
    obtain ⟨b, -, e⟩ := s.exists_bucket_of_get? hg hb user
    rw [e]
    exact h b
  · exact Int.le_refl 0

/-- The accrued time of a user who has a score in one accrual set at most. -/
theorem accrued_eq_getScore {b : Int} {user : String}
    (h : ∀ b', b' ≠ b → s.getScore (k.accrualSet b') user = 0) :
    s.accrued k user = s.getScore (k.accrualSet b) user := by
  unfold accrued
  rw [Table.sum_eq_of_support (k := k.accrualSet b)]
  · simp only [Keys.bucket?_accrualSet, Option.isSome_some, if_true, elim_get?_accrualSet]
  · intro name ms hg hne
    split
    · rename_i hb
      obtain ⟨b', hn, e⟩ := s.exists_bucket_of_get? hg hb user
      rw [e]
      refine h b' fun hbb => hne ?_
      rw [hn, hbb]
    · rfl

end Store

namespace Ledger

/-- The seconds of a user on all days together. -/
def spent (l : Ledger) (user : String) : Int :=
  l.records.sum fun at_ r => if at_.user = user then r.spentSeconds else 0

/-- The seconds of all users on all days together. -/
def total (l : Ledger) : Int := l.records.sum fun _ r => r.spentSeconds

/-- The seconds of the records whose user and day are as stated. -/
def sumWhere (l : Ledger) (p : UserDay → Prop) [DecidablePred p] : Int :=
  l.records.sum fun at_ r => if p at_ then r.spentSeconds else 0

/-- The seconds of a user on a day. -/
def spentOn (l : Ledger) (user day : String) : Int := (l.find user day).elim 0 (·.spentSeconds)

variable (l : Ledger) (user day : String) (seconds : Int)

/-- A sum in the range is written to the record. -/
theorem add_of_fits (h : Signed64.Fits (l.spentOn user day + seconds)) :
    l.add user day seconds =
      (.ok (), ⟨l.records.set ⟨user, day⟩
        { (l.find user day).getD ⟨user, day, 0, 0⟩ with
          spentSeconds := l.spentOn user day + seconds }⟩) := by
  have he : ((l.find user day).getD ⟨user, day, 0, 0⟩).spentSeconds = l.spentOn user day := by
    unfold spentOn
    cases l.find user day <;> rfl
  unfold add
  simp only [he, Signed64.add?_of_fits h]

/-- A sum that leaves the range changes nothing. -/
theorem add_of_not_fits (h : ¬ Signed64.Fits (l.spentOn user day + seconds)) :
    l.add user day seconds = (.crashed .addition, l) := by
  have he : ((l.find user day).getD ⟨user, day, 0, 0⟩).spentSeconds = l.spentOn user day := by
    unfold spentOn
    cases l.find user day <;> rfl
  have hn : Signed64.add? (l.spentOn user day) seconds = none := if_neg h
  unfold add
  simp only [he, hn]

variable {l user day seconds}

/-- What is found after seconds were added. -/
theorem find_add (h : Signed64.Fits (l.spentOn user day + seconds)) (v d : String) :
    (l.add user day seconds).2.find v d =
      if v = user ∧ d = day then
        some { (l.find user day).getD ⟨user, day, 0, 0⟩ with
          spentSeconds := l.spentOn user day + seconds }
      else l.find v d := by
  rw [add_of_fits l user day seconds h]
  unfold find
  rw [Table.get?_set]
  simp only [Table.compare_eq_iff, UserDay.mk.injEq]

/-- What is added to a record is added to every sum that the record has a part in. -/
theorem sumWhere_add (p : UserDay → Prop) [DecidablePred p]
    (h : Signed64.Fits (l.spentOn user day + seconds)) :
    (l.add user day seconds).2.sumWhere p =
      l.sumWhere p + if p ⟨user, day⟩ then seconds else 0 := by
  rw [add_of_fits l user day seconds h]
  unfold sumWhere
  rw [Table.sum_set]
  have hf : l.records.get? ⟨user, day⟩ = l.find user day := rfl
  rw [hf]
  unfold spentOn
  by_cases hp : p ⟨user, day⟩
  · simp only [if_pos hp]
    omega
  · simp only [if_neg hp]
    cases l.find user day <;> simp

theorem spent_add (h : Signed64.Fits (l.spentOn user day + seconds)) (other : String) :
    (l.add user day seconds).2.spent other =
      l.spent other + if other = user then seconds else 0 := by
  have hsum := sumWhere_add (fun k => k.user = other) h
  simp only [eq_comm (a := user)] at hsum
  exact hsum

theorem total_add (h : Signed64.Fits (l.spentOn user day + seconds)) :
    (l.add user day seconds).2.total = l.total + seconds := by
  have hsum := sumWhere_add (fun _ => True) h
  simp only [sumWhere, if_true] at hsum
  exact hsum

end Ledger

end Presence
