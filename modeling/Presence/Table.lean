/-!
# Finite tables in ascending order of their keys

A `Table` pairs keys with values, each key once and in ascending order, so that it can be read
both by key (`get?`) and as a list (`entries`). Main statements: `get?_set` and `get?_erase` say
what a write and a removal do to every reading, and `ext_get?` says that the readings determine
the table.
-/

set_option autoImplicit false

namespace Presence

universe u v

/-- Pairs with keys in strictly ascending order. -/
structure Table (κ : Type u) (β : Type v) [Ord κ] where
  entries : List (κ × β)
  ascending : entries.Pairwise fun a b => compare a.1 b.1 = .lt

namespace Table

variable {κ : Type u} {β : Type v} [Ord κ]

/-- The table without entries. -/
def empty : Table κ β := ⟨[], .nil⟩

instance : Inhabited (Table κ β) := ⟨empty⟩

/-- The value that stands at a key of a list of pairs. -/
def find? (k : κ) : List (κ × β) → Option β
  | [] => none
  | (k', v) :: rest => if compare k k' = .eq then some v else find? k rest

/-- The list with a value placed at a key, in order. -/
def place (k : κ) (v : β) : List (κ × β) → List (κ × β)
  | [] => [(k, v)]
  | (k', v') :: rest =>
    match compare k k' with
    | .lt => (k, v) :: (k', v') :: rest
    | .eq => (k', v) :: rest
    | .gt => (k', v') :: place k v rest

/-- The value at a key. -/
def get? (t : Table κ β) (k : κ) : Option β := find? k t.entries

/-- The value at a key, or a default. -/
def getD (t : Table κ β) (k : κ) (d : β) : β := (t.get? k).getD d

/-- The keys in ascending order. -/
def keys (t : Table κ β) : List κ := t.entries.map (·.1)

/-- The values in ascending order of their keys. -/
def values (t : Table κ β) : List β := t.entries.map (·.2)

section Ordered

variable [Std.TransOrd κ]

/-- What stands in a list with a new pair is this pair or stood there before. -/
theorem mem_place {k : κ} {v : β} {l : List (κ × β)} {p : κ × β} (h : p ∈ place k v l) :
    (compare k p.1 = .eq ∧ p.2 = v) ∨ p ∈ l := by
  induction l with
  | nil =>
      simp only [place, List.mem_singleton] at h
      subst h
      exact .inl ⟨Std.ReflOrd.compare_self, rfl⟩
  | cons q rest ih =>
      obtain ⟨k', v'⟩ := q
      unfold place at h
      split at h
      · rcases List.mem_cons.1 h with rfl | h
        · exact .inl ⟨Std.ReflOrd.compare_self, rfl⟩
        · exact .inr h
      · rename_i he
        rcases List.mem_cons.1 h with rfl | h
        · exact .inl ⟨he, rfl⟩
        · exact .inr (List.mem_cons_of_mem _ h)
      · rcases List.mem_cons.1 h with rfl | h
        · exact .inr List.mem_cons_self
        · rcases ih h with h | h
          · exact .inl h
          · exact .inr (List.mem_cons_of_mem _ h)

/-- A pair is placed so that the keys still ascend. -/
theorem place_ascending {k : κ} {v : β} {l : List (κ × β)}
    (h : l.Pairwise fun a b => compare a.1 b.1 = .lt) :
    (place k v l).Pairwise fun a b => compare a.1 b.1 = .lt := by
  induction l with
  | nil => simp [place]
  | cons q rest ih =>
      obtain ⟨k', v'⟩ := q
      rw [List.pairwise_cons] at h
      unfold place
      split
      · rename_i hlt
        refine List.pairwise_cons.2 ⟨?_, List.pairwise_cons.2 h⟩
        intro p hp
        rcases List.mem_cons.1 hp with rfl | hp
        · exact hlt
        · exact Std.TransCmp.lt_trans hlt (h.1 p hp)
      · exact List.pairwise_cons.2 h
      · rename_i hgt
        refine List.pairwise_cons.2 ⟨?_, ih h.2⟩
        intro p hp
        rcases mem_place hp with hp | hp
        · exact Std.TransCmp.lt_of_lt_of_eq (Std.OrientedCmp.lt_of_gt hgt) hp.1
        · exact h.1 p hp

/-- Writes a value at a key, in place of an earlier one. -/
def set (t : Table κ β) (k : κ) (v : β) : Table κ β :=
  ⟨place k v t.entries, place_ascending t.ascending⟩

/-- Removes a key with its value. -/
def erase (t : Table κ β) (k : κ) : Table κ β :=
  ⟨t.entries.filter fun p => compare k p.1 != .eq, t.ascending.filter _⟩

/-- The table of the last value given for each key. -/
def ofList (l : List (κ × β)) : Table κ β := l.foldl (fun t p => t.set p.1 p.2) empty

/-- Applies a function to the value at a key, where a missing value counts as a default. -/
def modify (t : Table κ β) (k : κ) (d : β) (f : β → β) : Table κ β := t.set k (f (t.getD k d))

end Ordered

@[simp]
theorem get?_empty (k : κ) : (empty : Table κ β).get? k = none := rfl

section Lawful

variable [Std.LawfulEqOrd κ]

/-- Keys that are placed alike are equal. -/
theorem compare_eq_iff {a b : κ} : compare a b = .eq ↔ a = b :=
  ⟨Std.LawfulEqOrd.eq_of_compare, fun h => h ▸ Std.ReflOrd.compare_self⟩

variable [Std.TransOrd κ]

omit [Std.TransOrd κ] in
/-- A new pair is found at its key, and every other key finds what it found before. -/
theorem find?_place (k k' : κ) (v : β) (l : List (κ × β)) :
    find? k' (place k v l) = if compare k' k = .eq then some v else find? k' l := by
  induction l with
  | nil => simp [place, find?]
  | cons q rest ih =>
      obtain ⟨k₀, v₀⟩ := q
      unfold place
      split
      · simp only [find?]
      · rename_i he
        have hk : k = k₀ := compare_eq_iff.1 he
        subst hk
        simp only [find?]
        split <;> rfl
      · rename_i hgt
        simp only [find?, ih]
        by_cases h : compare k' k₀ = .eq
        · have hk : k' = k₀ := compare_eq_iff.1 h
          subst hk
          have hne : compare k' k ≠ .eq := by
            intro he
            rw [compare_eq_iff.1 he, Std.ReflOrd.compare_self] at hgt
            cases hgt
          simp [hne, Std.ReflOrd.compare_self]
        · simp [h]

/-- Writing changes what is read at one key only. -/
theorem get?_set (t : Table κ β) (k k' : κ) (v : β) :
    (t.set k v).get? k' = if compare k' k = .eq then some v else t.get? k' :=
  find?_place k k' v t.entries

@[simp]
theorem get?_set_self (t : Table κ β) (k : κ) (v : β) : (t.set k v).get? k = some v := by
  simp [get?_set]

theorem get?_set_of_ne (t : Table κ β) {k k' : κ} (v : β) (h : k' ≠ k) :
    (t.set k v).get? k' = t.get? k' := by
  rw [get?_set, if_neg (fun he => h (compare_eq_iff.1 he))]

omit [Std.TransOrd κ] in
/-- Without the pairs of a key nothing is found there, and elsewhere what was found before. -/
theorem find?_filter_ne (k k' : κ) (l : List (κ × β)) :
    find? k' (l.filter fun p => compare k p.1 != .eq) =
      if compare k' k = .eq then none else find? k' l := by
  induction l with
  | nil => simp [find?]
  | cons q rest ih =>
      obtain ⟨k₀, v₀⟩ := q
      by_cases h : compare k k₀ = .eq
      · have hk : k = k₀ := compare_eq_iff.1 h
        subst hk
        simp only [List.filter_cons, h, bne_self_eq_false, Bool.false_eq_true, if_false, ih, find?]
        split <;> rfl
      · have hb : (compare k k₀ != .eq) = true := by simpa using h
        simp only [List.filter_cons, hb, if_true, find?, ih]
        by_cases h' : compare k' k₀ = .eq
        · have hk : k' = k₀ := compare_eq_iff.1 h'
          subst hk
          have hne : compare k' k ≠ .eq := fun he => h (compare_eq_iff.2 (compare_eq_iff.1 he).symm)
          simp [hne]
        · simp [h']

omit [Std.TransOrd κ] in
/-- Removing changes what is read at one key only. -/
theorem get?_erase (t : Table κ β) (k k' : κ) :
    (t.erase k).get? k' = if compare k' k = .eq then none else t.get? k' :=
  find?_filter_ne k k' t.entries

omit [Std.TransOrd κ] in
@[simp]
theorem get?_erase_self (t : Table κ β) (k : κ) : (t.erase k).get? k = none := by
  simp [get?_erase]

omit [Std.TransOrd κ] in
theorem get?_erase_of_ne (t : Table κ β) {k k' : κ} (h : k' ≠ k) :
    (t.erase k).get? k' = t.get? k' := by
  rw [get?_erase, if_neg (fun he => h (compare_eq_iff.1 he))]

omit [Std.TransOrd κ] in
/-- In a list with ascending keys a key finds exactly its pair. -/
theorem find?_eq_some_iff {k : κ} {v : β} {l : List (κ × β)}
    (h : l.Pairwise fun a b => compare a.1 b.1 = .lt) : find? k l = some v ↔ (k, v) ∈ l := by
  induction l with
  | nil => simp [find?]
  | cons q rest ih =>
      obtain ⟨k₀, v₀⟩ := q
      rw [List.pairwise_cons] at h
      simp only [find?, List.mem_cons, Prod.mk.injEq]
      by_cases he : compare k k₀ = .eq
      · have hk : k = k₀ := compare_eq_iff.1 he
        subst hk
        have hnot : (k, v) ∉ rest := by
          intro hm
          have hlt := h.1 _ hm
          rw [Std.ReflOrd.compare_self] at hlt
          cases hlt
        simp [Std.ReflOrd.compare_self, hnot, eq_comm]
      · have hne : k ≠ k₀ := fun e => he (compare_eq_iff.2 e)
        simp [he, hne, ih h.2]

omit [Std.TransOrd κ] in
/-- Reading a key finds exactly the pair that is listed. -/
theorem get?_eq_some_iff {t : Table κ β} {k : κ} {v : β} :
    t.get? k = some v ↔ (k, v) ∈ t.entries :=
  find?_eq_some_iff t.ascending

/-- Lists with ascending keys and the same pairs are equal. -/
theorem entries_eq_of_mem_iff {l m : List (κ × β)}
    (hl : l.Pairwise fun a b => compare a.1 b.1 = .lt)
    (hm : m.Pairwise fun a b => compare a.1 b.1 = .lt) (h : ∀ p, p ∈ l ↔ p ∈ m) : l = m := by
  induction l generalizing m with
  | nil =>
      cases m with
      | nil => rfl
      | cons q rest => exact absurd ((h q).2 List.mem_cons_self) (by simp)
  | cons p l ih =>
      cases m with
      | nil => exact absurd ((h p).1 List.mem_cons_self) (by simp)
      | cons q m =>
          rw [List.pairwise_cons] at hl hm
          have irrefl : ∀ x : κ × β, compare x.1 x.1 ≠ .lt := by
            intro x hx
            rw [Std.ReflOrd.compare_self] at hx
            cases hx
          have hpq : p = q := by
            rcases List.mem_cons.1 ((h p).1 List.mem_cons_self) with e | e
            · exact e
            · rcases List.mem_cons.1 ((h q).2 List.mem_cons_self) with f | f
              · exact f.symm
              · exact absurd (Std.TransCmp.lt_trans (hl.1 _ f) (hm.1 _ e)) (irrefl p)
          subst hpq
          refine congrArg _ (ih hl.2 hm.2 fun x => ?_)
          constructor
          · intro hx
            rcases List.mem_cons.1 ((h x).1 (List.mem_cons_of_mem _ hx)) with e | e
            · exact absurd (e ▸ hl.1 _ hx) (irrefl p)
            · exact e
          · intro hx
            rcases List.mem_cons.1 ((h x).2 (List.mem_cons_of_mem _ hx)) with e | e
            · exact absurd (e ▸ hm.1 _ hx) (irrefl p)
            · exact e

/-- Tables that agree at every key are equal. -/
theorem ext_get? {s t : Table κ β} (h : ∀ k, s.get? k = t.get? k) : s = t := by
  have he : s.entries = t.entries := entries_eq_of_mem_iff s.ascending t.ascending fun p => by
    rw [← get?_eq_some_iff (t := s), ← get?_eq_some_iff (t := t), h]
  cases s
  cases t
  simp only at he
  subst he
  rfl

end Lawful

end Table

end Presence
