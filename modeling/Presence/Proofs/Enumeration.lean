import Presence.Proofs.Placement

/-!
# What a scan enumerates

A scan asks for the buckets in use and for the members of a set whose scores lie in a range. Main
statements: the buckets are the default one and the positive integers among the members of the
index, each once and in ascending order (`mem_bucketsOf`, `bucketsOf_pairwise`), and a range query
finds exactly the members with a score in the range, each once, by score and then by name
(`Store.mem_rangeByScore`, `Store.rangeByScore_pairwise`).
-/

set_option autoImplicit false

namespace Presence

namespace Table

variable {κ : Type} {β : Type} [Ord κ]

theorem keys_pairwise (t : Table κ β) : t.keys.Pairwise fun a b => compare a b = .lt :=
  List.pairwise_map.2 t.ascending

end Table

namespace Store

variable (t : Store) (set : String) (low : Int) (high : Option Int)

theorem mem_rangeByScore {member : String} : member ∈ t.rangeByScore set low high ↔
    ∃ x, (t.members set).get? member = some x ∧ low ≤ x ∧ ∀ h, high = some h → x < h := by
  unfold rangeByScore
  simp only [List.mem_map, List.mem_mergeSort, List.mem_filter, Prod.exists, exists_and_right,
    exists_eq_right, Table.get?_eq_some_iff]
  refine exists_congr fun x => and_congr_right fun _ => ?_
  cases high with
  | none => simp
  | some h => simp

theorem before_trans {a b c : String × Int} (hab : before a b = true) (hbc : before b c = true) :
    before a c = true := by
  unfold before at *
  simp only [Bool.or_eq_true, Bool.and_eq_true, decide_eq_true_eq] at *
  rcases hab with hab | ⟨hab, hab'⟩
  · left
    rcases hbc with hbc | ⟨hbc, -⟩ <;> omega
  · rcases hbc with hbc | ⟨hbc, hbc'⟩
    · exact .inl (by omega)
    · exact .inr ⟨hab.trans hbc, Std.TransCmp.isLE_trans hab' hbc'⟩

theorem before_total (a b : String × Int) : (before a b || before b a) = true := by
  unfold before
  simp only [Bool.or_eq_true, Bool.and_eq_true, decide_eq_true_eq]
  rcases Int.lt_trichotomy a.2 b.2 with h | h | h
  · exact .inl (.inl h)
  · -- one of two names comes before the other
    cases hc : compare a.1 b.1 with
    | lt => exact .inl (.inr ⟨h, rfl⟩)
    | eq => exact .inl (.inr ⟨h, rfl⟩)
    | gt => exact .inr (.inr ⟨h.symm, by rw [Std.OrientedCmp.lt_of_gt hc]; rfl⟩)
  · exact .inr (.inl h)

/-- Members with their scores, each once. -/
theorem nodup_entries (ms : Table String Int) : (ms.entries.map (·.1)).Nodup := by
  refine List.pairwise_map.2 (ms.ascending.imp fun {a b} h e => ?_)
  rw [e, Std.ReflOrd.compare_self] at h
  cases h

theorem rangeByScore_pairwise : (t.rangeByScore set low high).Pairwise fun u v =>
    t.getScore set u < t.getScore set v ∨
      t.getScore set u = t.getScore set v ∧ compare u v = .lt := by
  unfold rangeByScore
  generalize hw : (fun p : String × Int => _ && _) = within
  have hperm := List.mergeSort_perm ((t.members set).entries.filter within) before
  have hsorted : (((t.members set).entries.filter within).mergeSort before).Pairwise
      fun a b => before a b = true :=
    List.pairwise_mergeSort (fun a b c => before_trans (a := a)) before_total _
  have hnodup : (((t.members set).entries.filter within).mergeSort before).Pairwise
      fun a b => a.1 ≠ b.1 := by
    have h : (((t.members set).entries.filter within).map (·.1)).Nodup :=
      (nodup_entries (t.members set)).sublist (List.filter_sublist.map _)
    exact List.pairwise_map.1 ((hperm.map _).nodup_iff.2 h)
  -- what is sorted and has no member twice is sorted strictly
  refine List.pairwise_map.2 ((hsorted.and hnodup).imp_of_mem fun {a b} ha hb hab => ?_)
  have hscore {p : String × Int}
      (hp : p ∈ ((t.members set).entries.filter within).mergeSort before) :
      t.getScore set p.1 = p.2 := by
    have hm := (List.mem_filter.1 (hperm.mem_iff.1 hp)).1
    rw [getScore_eq, Table.get?_eq_some_iff.2 hm]
    rfl
  rw [hscore ha, hscore hb]
  obtain ⟨hbefore, hne⟩ := hab
  unfold before at hbefore
  simp only [Bool.or_eq_true, Bool.and_eq_true, decide_eq_true_eq] at hbefore
  refine hbefore.imp_right fun ⟨he, hle⟩ => ⟨he, ?_⟩
  cases hc : compare a.1 b.1 with
  | lt => rfl
  | eq => exact absurd (Table.compare_eq_iff.1 hc) hne
  | gt =>
      rw [hc] at hle
      cases hle

end Store

namespace Service

variable (s : Service) (names : List String)

theorem mem_bucketsOf {b : Int} : b ∈ s.bucketsOf names ↔
    b = s.defaultRange ∨ 0 < b ∧ ∃ name ∈ names, Text.readSigned64? name = some b := by
  unfold bucketsOf
  rw [Table.mem_keys_ofList, List.mem_cons, List.mem_filter, List.mem_filterMap,
    decide_eq_true_eq, and_comm]

theorem bucketsOf_pairwise : (s.bucketsOf names).Pairwise (· < ·) :=
  (Table.keys_pairwise _).imp fun h => Int.compare_eq_lt.1 h

end Service

end Presence
