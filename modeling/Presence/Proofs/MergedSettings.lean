import Presence.Toml

/-!
# Which document a setting comes from

A value is reached by a path of keys. After a merge a path leads to the later document as far as
this one says anything about it, and to the earlier one otherwise: a value that is no table hides
whatever the earlier document has at or under its path, and two tables are merged again. Main
statement: `Toml.merge_precedence`, what stands at every path of a merged value, and that the same
document merged a second time changes nothing.
-/

set_option autoImplicit false

namespace Presence.Toml

/-- The value at the end of a path of keys. -/
def at? : List String → Toml → Option Toml
  | [], v => some v
  | key :: path, v => (v.get? key).bind (at? path)

/-- A value that holds others under keys. -/
def isTable : Toml → Bool
  | .table _ => true
  | _ => false

/-- Before its end the path leads to a value that is no table. -/
def Bars (v : Toml) (path : List String) : Prop :=
  ∃ before after w, path = before ++ after ∧ after ≠ [] ∧ v.at? before = some w ∧
    w.isTable = false

variable {v w base added : Toml} {key : String} {path : List String}

theorem exists_entries_of_isTable (h : v.isTable = true) : ∃ es, v = .table es := by
  cases v with
  | table es => exact ⟨es, rfl⟩
  | _ => cases h

theorem get?_of_not_isTable (h : v.isTable = false) (key : String) : v.get? key = none := by
  cases v with
  | table es => cases h
  | _ => rfl

theorem isTable_of_get? (h : v.get? key = some w) : v.isTable = true := by
  cases v with
  | table es => rfl
  | _ => cases h

theorem mergeUnder_none (v : Toml) : mergeUnder none v = v := by simp [mergeUnder]

theorem mergeUnder_some (b v : Toml) : mergeUnder (some b) v = b.merge v := by simp [mergeUnder]

theorem merge_of_not_isTable (h : v.isTable = false) (base : Toml) : base.merge v = v := by
  cases v with
  | table es => cases h
  | _ => simp [merge]

theorem mergeUnder_of_not_isTable (h : v.isTable = false) (base : Option Toml) :
    mergeUnder base v = v := by
  cases base with
  | none => exact mergeUnder_none v
  | some b => rw [mergeUnder_some, merge_of_not_isTable h]

/-- Nothing is left of a value that is no table. -/
theorem merge_onto_not_isTable (h : base.isTable = false) (v : Toml) : base.merge v = v := by
  cases v with
  | table es =>
      cases base with
      | table bs => cases h
      | _ => simp [merge]
  | _ => simp [merge]

/-! ## Paths of a merged value -/

theorem not_bars_nil (v : Toml) : ¬ v.Bars [] := by
  rintro ⟨before, after, w, hpath, hafter, -, -⟩
  exact hafter (List.append_eq_nil_iff.1 hpath.symm).2

theorem bars_cons_iff :
    v.Bars (key :: path) ↔ v.isTable = false ∨ ∃ w, v.get? key = some w ∧ w.Bars path := by
  constructor
  · rintro ⟨before, after, x, hpath, hafter, hat, hx⟩
    cases before with
    | nil =>
        cases hat
        exact .inl hx
    | cons k before =>
        obtain ⟨rfl, rfl⟩ := List.cons.inj hpath
        obtain ⟨w, hw, hat⟩ := Option.bind_eq_some_iff.1 hat
        exact .inr ⟨w, hw, before, after, x, rfl, hafter, hat, hx⟩
  · rintro (hv | ⟨w, hw, before, after, x, rfl, hafter, hat, hx⟩)
    · exact ⟨[], key :: path, v, rfl, List.cons_ne_nil _ _, rfl, hv⟩
    · exact ⟨key :: before, after, x, rfl, hafter, Option.bind_eq_some_iff.2 ⟨w, hw, hat⟩, hx⟩

/-- What a key of a table holds after the table was laid over what was there before, if anything. -/
theorem get?_mergeUnder_table (base : Option Toml) (es : List (String × Toml)) (key : String) :
    (mergeUnder base (.table es)).get? key =
      match es.lookup key with
      | some v => some (mergeUnder (base.bind (get? key)) v)
      | none => base.bind (get? key) := by
  have hbare : (Toml.table es).get? key =
      match es.lookup key with
      | some v => some (mergeUnder none v)
      | none => none := by
    rw [get?]
    cases es.lookup key with
    | some v => exact congrArg some (mergeUnder_none v).symm
    | none => rfl
  cases base with
  | none => rwa [mergeUnder_none]
  | some b =>
      rw [mergeUnder_some, Option.bind_some]
      by_cases hb : b.isTable = true
      · obtain ⟨bs, rfl⟩ := exists_entries_of_isTable hb
        rw [merge]
        exact lookup_mergeEntries bs es key
      · have hb : b.isTable = false := Bool.eq_false_iff.2 hb
        rwa [merge_onto_not_isTable hb, get?_of_not_isTable hb]

/-- One step along a path of a table that was laid over what was there before. -/
theorem at?_mergeUnder_table_cons (base : Option Toml) (es : List (String × Toml)) (key : String)
    (path : List String) :
    (mergeUnder base (.table es)).at? (key :: path) =
      match es.lookup key with
      | some v => (mergeUnder (base.bind (get? key)) v).at? path
      | none => base.bind (at? (key :: path)) := by
  rw [at?, get?_mergeUnder_table]
  cases es.lookup key with
  | some v => rfl
  | none =>
      cases base with
      | none => rfl
      | some b => rfl

section Paths

variable {base : Option Toml}

/-- What the later document has at a path is laid over what the earlier one has there. -/
theorem at?_mergeUnder_of_some (h : added.at? path = some v) :
    (mergeUnder base added).at? path = some (mergeUnder (base.bind (at? path)) v) := by
  induction path generalizing base added with
  | nil =>
      cases h
      cases base <;> rfl
  | cons key path ih =>
      obtain ⟨w, hw, hat⟩ := Option.bind_eq_some_iff.1 h
      obtain ⟨es, rfl⟩ := exists_entries_of_isTable (isTable_of_get? hw)
      rw [at?_mergeUnder_table_cons, show es.lookup key = some w from hw]
      dsimp only
      rw [ih hat]
      cases base <;> rfl

/-- Under a value that is no table nothing is left of the earlier document. -/
theorem at?_mergeUnder_of_bars (h : added.Bars path) : (mergeUnder base added).at? path = none := by
  induction path generalizing base added with
  | nil => exact absurd h (not_bars_nil added)
  | cons key path ih =>
      rcases bars_cons_iff.1 h with hv | ⟨w, hw, hbars⟩
      · rw [mergeUnder_of_not_isTable hv, at?, get?_of_not_isTable hv, Option.bind_none]
      · obtain ⟨es, rfl⟩ := exists_entries_of_isTable (isTable_of_get? hw)
        rw [at?_mergeUnder_table_cons, show es.lookup key = some w from hw]
        exact ih hbars

/-- Where the later document says nothing, the earlier one counts. -/
theorem at?_mergeUnder_of_none (h : added.at? path = none) (hb : ¬ added.Bars path) :
    (mergeUnder base added).at? path = base.bind (at? path) := by
  induction path generalizing base added with
  | nil => cases h
  | cons key path ih =>
      have htable : added.isTable = true :=
        Bool.of_not_eq_false fun hv => hb (bars_cons_iff.2 (.inl hv))
      obtain ⟨es, rfl⟩ := exists_entries_of_isTable htable
      rw [at?_mergeUnder_table_cons]
      cases hw : es.lookup key with
      | none => rfl
      | some w =>
          have hat : w.at? path = none := by
            rw [at?, get?, hw] at h
            exact h
          dsimp only
          rw [ih hat fun hbars => hb (bars_cons_iff.2 (.inr ⟨w, hw, hbars⟩))]
          cases base <;> rfl

end Paths

/-! ## The same document a second time -/

section Put

variable {α : Type} {k j : String} {a b : α} {es : List (String × α)}

theorem put_put_self (k : String) (a b : α) (es : List (String × α)) :
    put k a (put k b es) = put k a es := by
  induction es with
  | nil => simp [put]
  | cons e rest ih =>
      obtain ⟨i, c⟩ := e
      by_cases h : i = k
      · simp [put, h]
      · simp [put, h, ih]

theorem put_eq_self (h : es.lookup k = some a) : put k a es = es := by
  induction es with
  | nil => cases h
  | cons e rest ih =>
      obtain ⟨i, c⟩ := e
      by_cases hi : i = k
      · subst hi
        simp only [List.lookup_cons_self, Option.some.injEq] at h
        simp [put, h]
      · rw [List.lookup_cons, beq_false_of_ne fun e => hi e.symm] at h
        simp only [put, hi, if_false, ih h]

/-- A key that is there keeps its place, whatever is written under another one. -/
theorem put_comm (hne : k ≠ j) (hj : (es.lookup j).isSome = true) (a b : α) :
    put k a (put j b es) = put j b (put k a es) := by
  induction es with
  | nil => cases hj
  | cons e rest ih =>
      obtain ⟨i, c⟩ := e
      by_cases hij : i = j
      · subst hij
        simp [put, hne.symm]
      · by_cases hik : i = k
        · subst hik
          simp [put, hij]
        · rw [List.lookup_cons, beq_false_of_ne fun e => hij e.symm] at hj
          simp only [put, hij, hik, if_false, ih hj]

end Put

/-- Whatever is laid over entries, of the entries under a key only the first is seen. -/
theorem isSome_lookup_mergeEntries {es : List (String × Toml)} (h : (es.lookup key).isSome = true)
    (added : List (String × Toml)) : ((mergeEntries es added).lookup key).isSome = true := by
  rw [lookup_mergeEntries]
  cases added.lookup key with
  | some v => rfl
  | none => exact h

/-- What is laid over a key does not count where the key is written afterwards. -/
theorem put_mergeEntries (k : String) (v : Toml) {es added : List (String × Toml)}
    (h : ∀ e ∈ added, (es.lookup e.1).isSome = true) :
    put k v (mergeEntries es added) =
      put k v (mergeEntries es (added.filter fun e => e.1 ≠ k)) := by
  induction added with
  | nil => rfl
  | cons e rest ih =>
      obtain ⟨j, w⟩ := e
      have hrest := ih fun e he => h e (List.mem_cons_of_mem _ he)
      by_cases hj : j = k
      · subst hj
        rw [mergeEntries, put_put_self, hrest]
        simp
      · have hsome := h (j, w) List.mem_cons_self
        have hfilter : ((j, w) :: rest).filter (fun e => e.1 ≠ k) =
            (j, w) :: rest.filter fun e => e.1 ≠ k := by simp [hj]
        rw [hfilter, mergeEntries, mergeEntries,
          put_comm (Ne.symm hj) (isSome_lookup_mergeEntries hsome _), hrest,
          put_comm (Ne.symm hj) (isSome_lookup_mergeEntries hsome _)]

theorem lookup_filter_ne (k key : String) (es : List (String × Toml)) :
    (es.filter fun e => e.1 ≠ k).lookup key = if key = k then none else es.lookup key := by
  induction es with
  | nil => simp
  | cons e rest ih =>
      obtain ⟨j, w⟩ := e
      by_cases hj : j = k
      · subst hj
        by_cases hkey : key = j
        · simpa [hkey] using ih
        · simpa [hkey, List.lookup_cons, beq_false_of_ne hkey] using ih
      · by_cases hkey : key = j
        · simp [hj, hkey]
        · simpa [hj, List.lookup_cons, beq_false_of_ne hkey] using ih

/-- Entries stay as they are where they hold already what is laid over them. -/
theorem mergeEntries_eq_self {es added : List (String × Toml)}
    (h : ∀ key v, added.lookup key = some v → ∃ w, es.lookup key = some w ∧ w.merge v = w) :
    mergeEntries es added = es := by
  match added with
  | [] => rw [mergeEntries]
  | (k, v) :: rest =>
      obtain ⟨w, hw, hmerge⟩ := h k v List.lookup_cons_self
      have hkeys : ∀ e ∈ rest, (es.lookup e.1).isSome = true := by
        intro e he
        have hsome : (((k, v) :: rest).lookup e.1).isSome = true :=
          List.lookup_isSome_iff.2 ⟨e, List.mem_cons_of_mem _ he, beq_self_eq_true _⟩
        obtain ⟨u, hu⟩ := Option.isSome_iff_exists.1 hsome
        obtain ⟨x, hx, -⟩ := h e.1 u hu
        exact Option.isSome_of_eq_some hx
      -- of two entries with one key the first counts, so that the others can be left out
      have hothers : mergeEntries es (rest.filter fun e => e.1 ≠ k) = es := by
        refine mergeEntries_eq_self fun key u hu => ?_
        rw [lookup_filter_ne] at hu
        split at hu
        · cases hu
        · rename_i hkey
          exact h key u (by rw [List.lookup_cons, beq_false_of_ne hkey, hu])
      rw [mergeEntries, hw, mergeUnder_some, hmerge, put_mergeEntries k w hkeys, hothers,
        put_eq_self hw]
termination_by added.length
decreasing_by exact Nat.lt_succ_of_le (List.length_filter_le _ _)

theorem sizeOf_lt_of_lookup {es : List (String × Toml)} (h : es.lookup key = some v) :
    sizeOf v < sizeOf (Toml.table es) := by
  obtain ⟨before, after, rfl, -⟩ := List.lookup_eq_some_iff.1 h
  have hmem : (key, v) ∈ before ++ (key, v) :: after := by simp
  have hlist := List.sizeOf_lt_of_mem hmem
  have hpair : sizeOf (key, v) = 1 + sizeOf key + sizeOf v := rfl
  have htable : sizeOf (Toml.table (before ++ (key, v) :: after)) =
      1 + sizeOf (before ++ (key, v) :: after) := Toml.table.sizeOf_spec _
  omega

/-- The same document a second time changes nothing. -/
theorem merge_merge_self (base added : Toml) :
    (base.merge added).merge added = base.merge added := by
  by_cases hv : added.isTable = true
  · obtain ⟨es, rfl⟩ := exists_entries_of_isTable hv
    have hmerged : ∃ ms, base.merge (.table es) = .table ms := by
      cases base <;> simp [merge]
    obtain ⟨ms, hms⟩ := hmerged
    have hheld (key : String) (v : Toml) (h : es.lookup key = some v) :
        ms.lookup key = some (mergeUnder (base.get? key) v) := by
      have hget := get?_mergeUnder_table (some base) es key
      rw [mergeUnder_some, hms, h] at hget
      exact hget
    rw [hms, merge]
    refine congrArg Toml.table (mergeEntries_eq_self fun key v h => ⟨_, hheld key v h, ?_⟩)
    -- a value under which nothing was there was laid over nothing, as over a value that is no table
    cases base.get? key with
    | some b =>
        rw [mergeUnder_some]
        have := sizeOf_lt_of_lookup h
        exact merge_merge_self b v
    | none =>
        have := sizeOf_lt_of_lookup h
        have hself := merge_merge_self (.boolean false) v
        have hleaf : (Toml.boolean false).isTable = false := rfl
        rw [merge_onto_not_isTable hleaf] at hself
        rw [mergeUnder_none, hself]
  · have hv : added.isTable = false := Bool.eq_false_iff.2 hv
    rw [merge_of_not_isTable hv, merge_of_not_isTable hv]
termination_by sizeOf added

/-- A merged value, path by path: a value that is no table stands where the later document has it,
and hides what the earlier one has under it; where the later document says nothing the earlier one
counts; a table is laid over a table, and takes the place of anything else. The same document merged
a second time changes nothing. -/
theorem merge_precedence (base added : Toml) (path : List String) :
    (∀ v, added.at? path = some v → v.isTable = false → (base.merge added).at? path = some v) ∧
    (added.Bars path → (base.merge added).at? path = none) ∧
    (added.at? path = none → ¬ added.Bars path →
      (base.merge added).at? path = base.at? path) ∧
    (∀ t, added.at? path = some t → t.isTable = true →
      (∀ b, base.at? path = some b → b.isTable = true →
        (base.merge added).at? path = some (b.merge t)) ∧
      ((∀ b, base.at? path = some b → b.isTable = false) →
        (base.merge added).at? path = some t)) ∧
    (base.merge added).merge added = base.merge added := by
  have hmerge : base.merge added = mergeUnder (some base) added := (mergeUnder_some base added).symm
  refine ⟨fun v hv hleaf => ?_, fun hbars => ?_, fun hnone hbars => ?_, fun t ht htable => ?_,
    merge_merge_self base added⟩
  · rw [hmerge, at?_mergeUnder_of_some hv, mergeUnder_of_not_isTable hleaf]
  · rw [hmerge, at?_mergeUnder_of_bars hbars]
  · rw [hmerge, at?_mergeUnder_of_none hnone hbars, Option.bind_some]
  · rw [hmerge, at?_mergeUnder_of_some ht, Option.bind_some]
    constructor
    · intro b hb _
      rw [hb, mergeUnder_some]
    · intro hother
      cases hb : base.at? path with
      | none => rw [mergeUnder_none]
      | some b => rw [mergeUnder_some, merge_onto_not_isTable (hother b hb)]

example :
    ((Toml.table [("redis", .table [("url", .string "redis://localhost")])]).merge
      (.table [("redis", .string "none")])).at? ["redis", "url"] = none := by
  cbv

end Presence.Toml
