import Presence.Proofs.JsonWriting
import Presence.Statistic

/-!
# Daily statistics as texts

A record of a day is read from any object that has its four members, once each and in any order,
among members of other names; the point may be left out. Main statement:
`DailyStatistic.decode?_text`, with the text that is written (`decode?_encode`) as its special case.
-/

set_option autoImplicit false

namespace Presence.DailyStatistic

open Json

/-- The members of a record but for the point. -/
def ownMembers (s : DailyStatistic) : List (String × Json) :=
  [("userId", .string s.user), ("createdDate", .string s.day),
    ("spentTimeSecond", .int s.spentSeconds)]

/-- The numbers of a record are words of 64 bits. -/
structure Fits (s : DailyStatistic) : Prop where
  spent : Signed64.Fits s.spentSeconds
  point : Signed64.Fits s.point

/-- Members from which a record is read, in whatever order: those of its own, and its point unless
that is zero. -/
inductive Spelled (s : DailyStatistic) (ms : List (String × Json)) : Prop
  | withPoint (h : ms.Perm (("point", .int s.point) :: s.ownMembers))
  | withoutPoint (h : ms.Perm s.ownMembers) (hpoint : s.point = 0)

variable {s : DailyStatistic} {ms : List (String × Json)}

theorem signed64?_int {n : Int} (h : Signed64.Fits n) : (Json.int n).signed64? = some n := if_pos h

/-- Members in another order have the same member of a name. -/
theorem filter_of_perm {rest : List (String × Json)} {name : String} {v : Json}
    (h : ms.Perm rest) (hrest : (rest.filter fun m => m.1 = name) = [(name, v)]) :
    (ms.filter fun m => m.1 = name) = [(name, v)] := by
  have hperm := h.filter fun m => decide (m.1 = name)
  rw [hrest] at hperm
  exact List.perm_singleton.1 hperm

theorem only?_of_filter {name : String} {v : Json}
    (h : (ms.filter fun m => m.1 = name) = [(name, v)]) : only? name ms = some v := by
  rw [only?, h]

/-- The members of a record but for the point are found in any order. -/
theorem only?_of_perm (rest : List (String × Json)) (h : ms.Perm (rest ++ s.ownMembers))
    (hrest : rest = [] ∨ rest = [("point", .int s.point)]) :
    only? "userId" ms = some (.string s.user) ∧ only? "createdDate" ms = some (.string s.day) ∧
      only? "spentTimeSecond" ms = some (.int s.spentSeconds) := by
  refine ⟨?_, ?_, ?_⟩
  · apply only?_of_filter
    exact filter_of_perm h (by rcases hrest with rfl | rfl <;> simp [ownMembers])
  · apply only?_of_filter
    exact filter_of_perm h (by rcases hrest with rfl | rfl <;> simp [ownMembers])
  · apply only?_of_filter
    exact filter_of_perm h (by rcases hrest with rfl | rfl <;> simp [ownMembers])

/-- A record is read from its members, in whatever order they stand and whatever members of other
names stand among them. -/
theorem decode?_text (hfits : s.Fits) (hms : ∀ p ∈ ms, Plain 126 p.2)
    (h : s.Spelled (ms.filter fun p => isMember p.1)) :
    decode? (Json.object ms).text = some s := by
  have hrecord := record?_text isMember hms
  have hspent := signed64?_int hfits.spent
  have hpoint := signed64?_int hfits.point
  generalize (ms.filter fun p => isMember p.1) = found at h hrecord
  unfold decode?
  rw [hrecord]
  cases h with
  | withPoint h =>
      obtain ⟨huser, hday, hseconds⟩ :=
        only?_of_perm [("point", .int s.point)] h (.inr rfl)
      have hone : (found.filter fun m => m.1 = "point") = [("point", .int s.point)] :=
        filter_of_perm h (by simp [ownMembers])
      simp only [hone, huser, hday, hseconds, ofValues?, hspent, hpoint, string?,
        Option.bind_eq_bind, Option.bind_some]
  | withoutPoint h hzero =>
      obtain ⟨huser, hday, hseconds⟩ := only?_of_perm [] h (.inl rfl)
      have hnone : (found.filter fun m => m.1 = "point") = [] := by
        have hperm := h.filter fun m => decide (m.1 = "point")
        rw [show (s.ownMembers.filter fun m => decide (m.1 = "point")) = [] by
          simp [ownMembers]] at hperm
        exact hperm.eq_nil
      simp only [hnone, huser, hday, hseconds, ofValues?, hspent, ← hzero, string?,
        Option.bind_eq_bind, Option.bind_some]

theorem plain_int {levels : Nat} {n : Int} (h : Signed64.Fits n) : Plain levels (.int n) := by
  have hleast : -9223372036854775808 ≤ n := h.1
  have hgreatest : n ≤ 9223372036854775807 := h.2
  apply Plain.int
  simp only [isWord, Bool.and_eq_true, decide_eq_true_eq]
  omega

/-- What is written is read back. -/
theorem decode?_encode (hfits : s.Fits) : decode? s.encode = some s := by
  have hmembers : ∀ p ∈ s.ownMembers ++ [("point", .int s.point)], Plain 126 p.2 :=
    List.forall_mem_append.2
      ⟨List.forall_mem_cons.2 ⟨.string _, List.forall_mem_cons.2 ⟨.string _,
        List.forall_mem_singleton.2 (plain_int hfits.spent)⟩⟩,
      List.forall_mem_singleton.2 (plain_int hfits.point)⟩
  refine decode?_text hfits hmembers (.withPoint ?_)
  have hwanted : ((s.ownMembers ++ [("point", Json.int s.point)]).filter fun p => isMember p.1) =
      s.ownMembers ++ [("point", Json.int s.point)] := by simp [ownMembers, isMember]
  exact (List.Perm.of_eq hwanted).trans List.perm_append_comm

/-- Different records are written differently. -/
theorem eq_of_encode_eq {s s' : DailyStatistic} (hs : s.Fits) (hs' : s'.Fits)
    (h : s.encode = s'.encode) : s = s' := by
  have hback := decode?_encode hs
  rw [h, decode?_encode hs'] at hback
  exact (Option.some.inj hback).symm

end Presence.DailyStatistic
