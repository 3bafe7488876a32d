import Mathlib.Algebra.GroupWithZero.Nat
import Mathlib.Data.List.Infix
import Presence.Proofs.Evaluation
import Presence.Proofs.OctetOrder

/-!
# What the statistics tell of a history

Seconds are added to the records of users and days in any order. Main statements:
`Ledger.find_ofHistory`, a record holds the sum of what was added to it, and
`Service.ranges_tell_history`, a query for the days from one to another lists exactly the records of
the user on these days, by day, and their sum is the sum of what was added there, in whatever order
it was added.
-/

set_option autoImplicit false

namespace Presence

/-- A text lies between two others, both inclusive, by its octets. -/
def Text.isBetween (first last s : String) : Bool :=
  decide (octets first ≤ octets s) && decide (octets s ≤ octets last)

/-- Seconds that are added to the record of a user and a day. -/
structure Increment where
  user : String
  day : String
  seconds : Int
  deriving Repr, DecidableEq

namespace Increment

/-- The seconds belong to a user and a day. -/
def isOn (user day : String) (i : Increment) : Bool := i.user = user && i.day = day

/-- The seconds belong to a user and a day between two others, both inclusive. -/
def isWithin (user first last : String) (i : Increment) : Bool :=
  i.user = user && Text.isBetween first last i.day

/-- The sum of the seconds of a kind. -/
def sumOf (p : Increment → Bool) (is : List Increment) : Int :=
  ((is.filter p).map (·.seconds)).sum

/-- Every sum that a record goes through is a number of 64 bits. -/
def FitThroughout (is : List Increment) : Prop :=
  ∀ before, before <+: is → ∀ user day, Signed64.Fits (sumOf (isOn user day) before)

variable {is js : List Increment} {i : Increment} {user day : String}

theorem sumOf_concat (p : Increment → Bool) (is : List Increment) (i : Increment) :
    sumOf p (is ++ [i]) = sumOf p is + if p i then i.seconds else 0 := by
  unfold sumOf
  by_cases h : p i = true <;> simp [List.filter_append, h]

theorem sumOf_perm (p : Increment → Bool) (h : is.Perm js) : sumOf p is = sumOf p js :=
  ((h.filter p).map _).sum_eq

theorem sumOf_eq_zero {p : Increment → Bool} (h : ∀ i ∈ is, p i = false) : sumOf p is = 0 := by
  have hnil : is.filter p = [] := List.filter_eq_nil_iff.2 fun i hi => by simp [h i hi]
  rw [sumOf, hnil]
  rfl

theorem FitThroughout.of_prefix (h : FitThroughout is) (hp : js <+: is) : FitThroughout js :=
  fun before hb => h before (hb.trans hp)

/-- One more sum that fits. -/
theorem FitThroughout.concat (h : FitThroughout is)
    (hfits : Signed64.Fits (sumOf (isOn i.user i.day) is + i.seconds)) :
    FitThroughout (is ++ [i]) := by
  intro before hb user day
  rcases List.prefix_concat_iff.1 hb with rfl | hb
  · rw [sumOf_concat]
    by_cases hon : isOn user day i = true
    · rw [if_pos hon]
      simp only [isOn, Bool.and_eq_true, decide_eq_true_eq] at hon
      obtain ⟨rfl, rfl⟩ := hon
      exact hfits
    · rw [if_neg hon, Int.add_zero]
      exact h is (List.prefix_refl is) user day
  · exact h before hb user day

theorem FitThroughout.fits (h : FitThroughout is) (user day : String) :
    Signed64.Fits (sumOf (isOn user day) is) :=
  h is (List.prefix_refl is) user day

/-- Where nothing is taken away, a sum over more is no smaller. -/
theorem sumOf_le {p q : Increment → Bool} (hpos : ∀ i ∈ is, 0 < i.seconds)
    (hpq : ∀ i ∈ is, p i = true → q i = true) : 0 ≤ sumOf p is ∧ sumOf p is ≤ sumOf q is := by
  induction is using List.reverseRecOn with
  | nil => exact ⟨le_rfl, le_rfl⟩
  | append_singleton is i ih =>
      have hmem : i ∈ is ++ [i] := List.mem_append_right is (List.mem_singleton_self i)
      obtain ⟨hzero, hle⟩ := ih (fun j hj => hpos j (List.mem_append_left [i] hj))
        fun j hj => hpq j (List.mem_append_left [i] hj)
      have hi := hpos i hmem
      rw [sumOf_concat, sumOf_concat]
      by_cases hp : p i = true
      · rw [if_pos hp, if_pos (hpq i hmem hp)]
        omega
      · rw [if_neg hp]
        split <;> omega

theorem natAbs_sumOf_le (p : Increment → Bool) (is : List Increment) :
    (sumOf p is).natAbs ≤ (is.map (·.seconds.natAbs)).sum := by
  unfold sumOf
  induction is with
  | nil => rfl
  | cons i rest ih =>
      rw [List.filter_cons, List.map_cons, List.sum_cons]
      split
      · rw [List.map_cons, List.sum_cons]
        omega
      · omega

/-- All sums fit if everything together, whatever its sign, is small enough. -/
theorem FitThroughout.of_small (h : (is.map (·.seconds.natAbs)).sum < 2 ^ 63) :
    FitThroughout is := by
  rintro before ⟨rest, rfl⟩ user day
  have hsum := natAbs_sumOf_le (isOn user day) before
  rw [List.map_append, List.sum_append] at h
  simp only [Signed64.Fits, Signed64.least, Signed64.greatest]
  omega

end Increment

/-! ## Records -/

namespace Ledger

open Increment

/-- The records after seconds were added one after another, where there were none before. -/
def ofHistory (is : List Increment) : Ledger :=
  is.foldl (fun l i => (l.add i.user i.day i.seconds).2) {}

theorem ofHistory_concat (is : List Increment) (i : Increment) :
    ofHistory (is ++ [i]) = ((ofHistory is).add i.user i.day i.seconds).2 := by
  simp [ofHistory, List.foldl_append]

variable {is js : List Increment} {user day first last : String}

theorem spentOn_of_find {l : Ledger} (h : l.find user day =
      if is.any (isOn user day) then some ⟨user, day, sumOf (isOn user day) is, 0⟩ else none) :
    l.spentOn user day = sumOf (isOn user day) is := by
  unfold spentOn
  rw [h]
  by_cases hany : is.any (isOn user day) = true
  · rw [if_pos hany, Option.elim_some]
  · rw [if_neg hany, Option.elim_none, sumOf_eq_zero]
    simpa using hany

/-- What is added to a record that holds the sum of a history fits if the longer history does. -/
theorem fits_add_of_spentOn {l : Ledger} {i : Increment}
    (hspent : l.spentOn i.user i.day = sumOf (isOn i.user i.day) is)
    (h : FitThroughout (is ++ [i])) : Signed64.Fits (l.spentOn i.user i.day + i.seconds) := by
  have hself : isOn i.user i.day i = true := by simp [isOn]
  have hfits := h.fits i.user i.day
  rwa [sumOf_concat, if_pos hself, ← hspent] at hfits

/-- There is a record for every user and day to which anything was added, and it holds the sum. -/
theorem find_ofHistory (h : FitThroughout is) (user day : String) :
    (ofHistory is).find user day =
      if is.any (isOn user day) then some ⟨user, day, sumOf (isOn user day) is, 0⟩ else none := by
  induction is using List.reverseRecOn generalizing user day with
  | nil => rfl
  | append_singleton is i ih =>
      have hfind := fun u d => ih (h.of_prefix (List.prefix_append is [i])) u d
      have hspent := spentOn_of_find (hfind i.user i.day)
      have hfits := fits_add_of_spentOn hspent h
      have hself : isOn i.user i.day i = true := by simp [isOn]
      rw [ofHistory_concat, find_add hfits, hspent, sumOf_concat]
      by_cases hon : user = i.user ∧ day = i.day
      · obtain ⟨rfl, rfl⟩ := hon
        rw [if_pos ⟨rfl, rfl⟩, hself, hfind]
        by_cases hany : is.any (isOn i.user i.day) = true <;> simp [hany, hself]
      · have hoff : isOn user day i = false := by
          simp only [isOn, Bool.and_eq_false_iff, decide_eq_false_iff_not]
          by_cases hu : i.user = user
          · exact .inr fun hd => hon ⟨hu.symm, hd.symm⟩
          · exact .inl hu
        rw [if_neg hon, hfind]
        simp [hoff]

theorem spentOn_ofHistory (h : FitThroughout is) (user day : String) :
    (ofHistory is).spentOn user day = sumOf (isOn user day) is :=
  spentOn_of_find (find_ofHistory h user day)

theorem fits_add {i : Increment} (h : FitThroughout (is ++ [i])) :
    Signed64.Fits ((ofHistory is).spentOn i.user i.day + i.seconds) :=
  fits_add_of_spentOn (spentOn_ofHistory (h.of_prefix (List.prefix_append is [i])) _ _) h

/-- Records are equal if they tell of the same history, in whatever order. -/
theorem ofHistory_perm (h : is.Perm js) (hi : FitThroughout is) (hj : FitThroughout js) :
    ofHistory js = ofHistory is := by
  have hrecords : (ofHistory js).records = (ofHistory is).records := by
    refine Table.ext_get? fun k => ?_
    have hfind := find_ofHistory hj k.user k.day
    rw [← h.any_eq, ← sumOf_perm _ h, ← find_ofHistory hi] at hfind
    exact hfind
  rw [← show Ledger.mk (ofHistory js).records = ofHistory js from rfl, hrecords]

/-! ## Ranges -/

/-- By the order of users and days the records from one day of a user to another are records of this
user on the days between. -/
theorem isLE_and_isLE_iff (user first last : String) (k : UserDay) :
    ((compare ⟨user, first⟩ k).isLE && (compare k ⟨user, last⟩).isLE) = true ↔
      k.user = user ∧ Text.isBetween first last k.day = true := by
  rw [UserDay.compare_def, UserDay.compare_def, Text.isBetween]
  simp only [← Text.isLE_compare_iff]
  cases hu : compare user k.user with
  | lt =>
      -- the record of a later user comes after all days of this one
      have hgt : compare k.user user = .gt := Std.OrientedCmp.gt_of_lt hu
      have hne : k.user ≠ user := fun e => by simp [e, Std.ReflOrd.compare_self] at hu
      simp [hgt, hne]
  | gt =>
      have hne : k.user ≠ user := fun e => by simp [e, Std.ReflOrd.compare_self] at hu
      simp [hne]
  | eq =>
      have he : k.user = user := (Table.compare_eq_iff.1 hu).symm
      simp [he, Std.ReflOrd.compare_self]

/-- A range lists the records of the user on the days between, and no others. -/
theorem mem_range (h : FitThroughout is) {r : DailyStatistic} :
    r ∈ (ofHistory is).range user first last ↔
      r.user = user ∧ Text.isBetween first last r.day = true ∧
        (∃ i ∈ is, i.isOn user r.day = true) ∧
        r.spentSeconds = sumOf (isOn user r.day) is ∧ r.point = 0 := by
  have hrecord (k : UserDay) : (k, r) ∈ (ofHistory is).records.entries ↔
      is.any (isOn k.user k.day) = true ∧ r = ⟨k.user, k.day, sumOf (isOn k.user k.day) is, 0⟩ := by
    rw [← Table.get?_eq_some_iff]
    show (ofHistory is).find k.user k.day = some r ↔ _
    rw [find_ofHistory h]
    split
    · rename_i hany
      simp [hany, eq_comm]
    · rename_i hany
      simp [hany]
  unfold range
  simp only [List.mem_map, List.mem_filter, Prod.exists, exists_eq_right, hrecord,
    isLE_and_isLE_iff, List.any_eq_true]
  constructor
  · rintro ⟨⟨u, d⟩, ⟨hany, rfl⟩, rfl, hday⟩
    exact ⟨rfl, hday, hany, rfl, rfl⟩
  · obtain ⟨u, d, seconds, point⟩ := r
    rintro ⟨hu, hday, hany, hseconds, hpoint⟩
    dsimp only at hu hday hany hseconds hpoint
    subst hu hseconds hpoint
    exact ⟨⟨u, d⟩, ⟨hany, rfl⟩, rfl, hday⟩

/-- Between two days in the wrong order there are no records. -/
theorem range_eq_nil (h : FitThroughout is) (hlt : Text.octets last < Text.octets first) :
    (ofHistory is).range user first last = [] := by
  refine List.eq_nil_iff_forall_not_mem.2 fun r hr => ?_
  obtain ⟨-, hday, -⟩ := (mem_range h).1 hr
  simp only [Text.isBetween, Bool.and_eq_true, decide_eq_true_eq] at hday
  exact absurd (hday.1.trans hday.2) (not_le_of_gt hlt)

/-- A range lists its records by day, each day once. -/
theorem range_pairwise (h : FitThroughout is) :
    ((ofHistory is).range user first last).Pairwise fun a b =>
      Text.octets a.day < Text.octets b.day := by
  unfold range
  refine List.pairwise_map.2 ?_
  refine ((ofHistory is).records.ascending.filter _).imp_of_mem fun {a b} ha hb hab => ?_
  have hkey {p : UserDay × DailyStatistic} (hp : p ∈ (ofHistory is).records.entries) :
      p.2.day = p.1.day := by
    have hfind : (ofHistory is).find p.1.user p.1.day = some p.2 := Table.get?_eq_some_iff.2 hp
    rw [find_ofHistory h] at hfind
    split at hfind
    · rw [← Option.some.inj hfind]
    · cases hfind
  rw [List.mem_filter, isLE_and_isLE_iff] at ha hb
  rw [hkey ha.1, hkey hb.1, ← Text.compare_eq_lt_iff]
  rw [UserDay.compare_def, ha.2.1, hb.2.1, Std.ReflOrd.compare_self] at hab
  exact hab

/-- The seconds of the records in a range together. -/
theorem sum_range (h : FitThroughout is) :
    (((ofHistory is).range user first last).map (·.spentSeconds)).sum =
      sumOf (isWithin user first last) is := by
  have hwhere (l : Ledger) : ((l.range user first last).map (·.spentSeconds)).sum =
      l.sumWhere fun k => k.user = user ∧ Text.isBetween first last k.day = true := by
    unfold range sumWhere Table.sum
    induction l.records.entries with
    | nil => rfl
    | cons p rest ih =>
        simp only [List.filter_cons, isLE_and_isLE_iff] at ih ⊢
        split <;> simp_all
  rw [hwhere]
  induction is using List.reverseRecOn with
  | nil => rfl
  | append_singleton is i ih =>
      rw [ofHistory_concat, sumWhere_add _ (fits_add h),
        ih (h.of_prefix (List.prefix_append is [i])), sumOf_concat]
      simp [isWithin]

/-- The records of a range up to the day of one of them. -/
theorem sum_range_upTo (h : FitThroughout is) {r : DailyStatistic}
    (hr : r ∈ (ofHistory is).range user first last) :
    ((((ofHistory is).range user first last).filter fun x =>
        Text.octets x.day ≤ Text.octets r.day).map (·.spentSeconds)).sum =
      sumOf (isWithin user first r.day) is := by
  have hnodup (first last : String) : ((ofHistory is).range user first last).Nodup :=
    (range_pairwise h).imp fun {a b} hlt e => by
      subst e
      exact lt_irrefl _ hlt
  rw [← sum_range h]
  refine (((List.perm_ext_iff_of_nodup ((hnodup _ _).filter _) (hnodup _ _)).2 fun x => ?_).map
    _).sum_eq
  obtain ⟨-, hday, -⟩ := (mem_range h).1 hr
  simp only [Text.isBetween, Bool.and_eq_true, decide_eq_true_eq] at hday
  simp only [List.mem_filter, mem_range h, Text.isBetween, Bool.and_eq_true, decide_eq_true_eq]
  constructor
  · rintro ⟨⟨hu, ⟨hfirst, -⟩, hrest⟩, hle⟩
    exact ⟨hu, ⟨hfirst, hle⟩, hrest⟩
  · rintro ⟨hu, ⟨hfirst, hle⟩, hrest⟩
    exact ⟨⟨hu, ⟨hfirst, hle.trans hday.2⟩, hrest⟩, hle⟩

end Ledger

/-! ## Queries -/

namespace Service

open Operation Increment

/-- The seconds of records are added by day, and every sum on the way has to fit. -/
theorem sumSeconds_eq_ok_iff {rs : List DailyStatistic}
    (h : rs.Pairwise fun a b => Text.octets a.day < Text.octets b.day) (t n : Int) :
    sumSeconds t rs = .ok n ↔
      (∀ r ∈ rs, Signed64.Fits
        (t + ((rs.filter fun x => Text.octets x.day ≤ Text.octets r.day).map
          (·.spentSeconds)).sum)) ∧
        n = t + (rs.map (·.spentSeconds)).sum := by
  induction rs generalizing t with
  | nil => simp [sumSeconds, eq_comm]
  | cons r rest ih =>
      obtain ⟨hlater, hrest⟩ := List.pairwise_cons.1 h
      have hself : ((r :: rest).filter fun x => Text.octets x.day ≤ Text.octets r.day) = [r] := by
        have hnil : (rest.filter fun x => Text.octets x.day ≤ Text.octets r.day) = [] :=
          List.filter_eq_nil_iff.2 fun x hx => by simpa using hlater x hx
        simp [hnil]
      have hothers (y : DailyStatistic) (hy : y ∈ rest) :
          ((r :: rest).filter fun x => Text.octets x.day ≤ Text.octets y.day) =
            r :: rest.filter fun x => Text.octets x.day ≤ Text.octets y.day := by
        simp [le_of_lt (hlater y hy)]
      rw [sumSeconds, List.forall_mem_cons, hself]
      by_cases hfits : Signed64.Fits (t + r.spentSeconds)
      · rw [Signed64.add?_of_fits hfits]
        show sumSeconds (t + r.spentSeconds) rest = _ ↔ _
        rw [ih hrest]
        have hsum (y : DailyStatistic) (hy : y ∈ rest) :
            t + r.spentSeconds + ((rest.filter fun x =>
              Text.octets x.day ≤ Text.octets y.day).map (·.spentSeconds)).sum =
            t + (((r :: rest).filter fun x =>
              Text.octets x.day ≤ Text.octets y.day).map (·.spentSeconds)).sum := by
          rw [hothers y hy, List.map_cons, List.sum_cons, Int.add_assoc]
        refine and_congr ⟨fun hall => ⟨by simpa using hfits, fun y hy => hsum y hy ▸ hall y hy⟩,
          fun hall y hy => (hsum y hy).symm ▸ hall.2 y hy⟩ ?_
        rw [List.map_cons, List.sum_cons, Int.add_assoc]
      · have hnone : Signed64.add? t r.spentSeconds = none := if_neg hfits
        rw [hnone]
        exact iff_of_false (fun e => nomatch e) fun hall => hfits (by simpa using hall.1.1)

theorem fits_of_sumSeconds {rs : List DailyStatistic} {t n : Int} (ht : Signed64.Fits t)
    (h : sumSeconds t rs = .ok n) : Signed64.Fits n := by
  induction rs generalizing t with
  | nil =>
      obtain rfl := Outcome.ok.inj h
      exact ht
  | cons r rest ih =>
      rw [sumSeconds] at h
      by_cases hfits : Signed64.Fits (t + r.spentSeconds)
      · rw [Signed64.add?_of_fits hfits] at h
        exact ih hfits h
      · rw [show Signed64.add? t r.spentSeconds = none from if_neg hfits] at h
        cases h

/-- Adds seconds to records one after another. -/
def addAll : List Increment → Operation Unit
  | [] => pure ()
  | i :: rest => do
    addSpent i.user i.day i.seconds
    addAll rest

variable {is : List Increment} {user first last : String}

theorem run_addAll (before : List Increment) {m : Memory}
    (hm : m.ledger = Ledger.ofHistory before) (h : FitThroughout (before ++ is)) :
    m.run (addAll is) = (.ok (), { m with ledger := Ledger.ofHistory (before ++ is) }) := by
  induction is generalizing before m with
  | nil =>
      rw [List.append_nil, ← hm]
      rfl
  | cons i rest ih =>
      rw [List.append_cons] at h ⊢
      have hfits : Signed64.Fits (m.ledger.spentOn i.user i.day + i.seconds) :=
        hm ▸ Ledger.fits_add (h.of_prefix (List.prefix_append _ rest))
      have hstep : (m.ledger.add i.user i.day i.seconds).2 = Ledger.ofHistory (before ++ [i]) := by
        rw [Ledger.ofHistory_concat, hm]
      rw [addAll, Memory.run_bind_ok (Memory.run_addSpent_of_fits hfits)]
      exact ih _ hstep h

theorem run_spentBetween (m : Memory) (user first last : String) :
    m.run (spentBetween user first last) = (sumSeconds 0 (m.ledger.range user first last), m) := rfl

/-- The sum of a range is there if every sum from the first day to one of the days fits. -/
theorem run_spentBetween_eq_ok_iff {m : Memory} (hm : m.ledger = Ledger.ofHistory is)
    (h : FitThroughout is) :
    m.run (spentBetween user first last) = (.ok (sumOf (isWithin user first last) is), m) ↔
      ∀ i ∈ is, i.isWithin user first last = true →
        Signed64.Fits (sumOf (isWithin user first i.day) is) := by
  rw [run_spentBetween, hm, Prod.ext_iff]
  simp only [and_true]
  rw [sumSeconds_eq_ok_iff (Ledger.range_pairwise h), Ledger.sum_range h]
  simp only [Int.zero_add, and_true]
  constructor
  · intro hall i hi hwithin
    simp only [isWithin, Bool.and_eq_true, decide_eq_true_eq] at hwithin
    have hon : i.isOn user i.day = true := by simp [Increment.isOn, hwithin.1]
    have hr : ⟨user, i.day, sumOf (Increment.isOn user i.day) is, 0⟩ ∈
        (Ledger.ofHistory is).range user first last :=
      (Ledger.mem_range h).2 ⟨rfl, hwithin.2, ⟨i, hi, hon⟩, rfl, rfl⟩
    have hfits := hall _ hr
    rwa [Ledger.sum_range_upTo h hr] at hfits
  · intro hall r hr
    rw [Ledger.sum_range_upTo h hr]
    obtain ⟨-, hday, ⟨i, hi, hon⟩, -⟩ := (Ledger.mem_range h).1 hr
    simp only [Increment.isOn, Bool.and_eq_true, decide_eq_true_eq] at hon
    obtain ⟨hu, hd⟩ := hon
    rw [← hd]
    exact hall i hi (by simp [isWithin, hu, hd, hday])

/-- After seconds were added to any records in any order, a query lists the records of its user on
the days it asks for, each once and by day, with the sums of what was added to them; the seconds it
counts are the sum of what was added on these days, unless a sum on the way leaves the range. The
order in which the seconds were added makes no difference. -/
theorem ranges_tell_history {m : Memory} (hm : m.ledger = {}) (h : FitThroughout is)
    (user first last : String) :
    ∃ m', m.run (addAll is) = (.ok (), m') ∧
      (∀ js, is.Perm js → FitThroughout js → m.run (addAll js) = (.ok (), m')) ∧
      (∃ rs, m'.run (statisticsBetween user first last) = (.ok rs, m') ∧
        (∀ r, r ∈ rs ↔ r.user = user ∧ Text.isBetween first last r.day = true ∧
          (∃ i ∈ is, i.isOn user r.day = true) ∧
          r.spentSeconds = sumOf (Increment.isOn user r.day) is ∧ r.point = 0) ∧
        rs.Pairwise fun a b => Text.octets a.day < Text.octets b.day) ∧
      (m'.run (spentBetween user first last) = (.ok (sumOf (isWithin user first last) is), m') ↔
        ∀ i ∈ is, i.isWithin user first last = true →
          Signed64.Fits (sumOf (isWithin user first i.day) is)) ∧
      (Text.octets last < Text.octets first →
        m'.run (spentBetween user first last) = (.ok 0, m')) := by
  have hrun (js : List Increment) (hj : FitThroughout js) :
      m.run (addAll js) = (.ok (), { m with ledger := Ledger.ofHistory js }) :=
    run_addAll [] hm hj
  refine ⟨{ m with ledger := Ledger.ofHistory is }, hrun is h, fun js hperm hj => ?_,
    ⟨_, rfl, fun r => Ledger.mem_range h, Ledger.range_pairwise h⟩,
    run_spentBetween_eq_ok_iff rfl h, fun hlt => ?_⟩
  · rw [hrun js hj, Ledger.ofHistory_perm hperm h hj]
  · rw [run_spentBetween]
    show (sumSeconds 0 ((Ledger.ofHistory is).range user first last), _) = _
    rw [Ledger.range_eq_nil h hlt]
    rfl

/-- Additions for two users, where the name of the one starts with the name of the other. -/
def prefixedUsers : List Increment :=
  [⟨"ada", "20260302", 5⟩, ⟨"adam", "20260302", 7⟩, ⟨"ada", "20260301", -3⟩,
    ⟨"ada", "20260302", 10⟩, ⟨"ada", "20260303", 100⟩]

theorem ranges_prefixedUsers :
    let m : Memory := { clock := ⟨Clock.noon, false⟩ }
    m.ledger = {} ∧ FitThroughout prefixedUsers ∧
      ∃ m', m.run (addAll prefixedUsers) = (.ok (), m') ∧
        m'.run (spentBetween "ada" "20260301" "20260302") = (.ok 12, m') := by
  intro m
  have hfits : FitThroughout prefixedUsers := .of_small (by decide)
  obtain ⟨m', hrun, -, -, hsum, -⟩ :=
    ranges_tell_history (m := m) rfl hfits "ada" "20260301" "20260302"
  exact ⟨rfl, hfits, m', hrun, hsum.2 (by decide)⟩

end Service

end Presence
