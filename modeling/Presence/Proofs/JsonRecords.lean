import Mathlib.Data.List.Forall2
import Presence.Proofs.JsonTrees

/-!
# What is read of a record

A record is an object of which some members are wanted. Main statements: `record?_of_object`, what
is read of an object are the values of the members that are wanted, `exists_object_of_record?`, what
is read as a record is an object, and `only?_eq_some`, the only value of a name is that of the only
member with this name.
-/

set_option autoImplicit false

namespace Presence.Json.Tree

/-- The names and values of the members that are wanted. The value of any other member is not
looked at, but its name is. -/
def wanted? (wanted : String → Bool) :
    List (Option String × Tree) → Option (List (String × Json))
  | [] => some []
  | (k, t) :: ms =>
    k.bind fun name =>
      if wanted name then
        (t.value? (.checked 1) 0).bind fun v => (wanted? wanted ms).map fun vs => (name, v) :: vs
      else wanted? wanted ms

variable {wanted : String → Bool} {rest : List Token}

/-- The reader of a record goes over the tokens of members. -/
theorem members?_tokens (ms : List (Option String × Tree)) :
    ∀ (k : Option String) (t : Tree) {n : Nat}, ms.length < n →
      Json.members? wanted n (.string k :: .colon :: (t.tokens ++ (memberTokens ms ++ rest))) =
        (wanted? wanted ((k, t) :: ms)).map fun vs => (vs, rest) := by
  induction ms with
  | nil =>
      intro k t n hn
      obtain ⟨n, rfl⟩ := Nat.exists_eq_succ_of_ne_zero (Nat.ne_of_gt hn)
      cases k with
      | none => rfl
      | some name =>
          rw [Json.members?, wanted?, Option.bind_some, value?_whole]
          cases hname : wanted name with
          | true =>
              simp only [if_true]
              cases t.value? (.checked 1) 0 <;> rfl
          | false =>
              obtain ⟨v, hv⟩ := exists_value?_skipping 0 t
              simp only [Bool.false_eq_true, if_false, hv]
              rfl
  | cons m ms ih =>
      intro k t n hn
      obtain ⟨k', t'⟩ := m
      obtain ⟨n, rfl⟩ := Nat.exists_eq_succ_of_ne_zero (Nat.ne_of_gt (Nat.zero_lt_of_lt hn))
      have hrest := ih k' t' (Nat.lt_of_succ_lt_succ hn)
      cases k with
      | none => rfl
      | some name =>
          rw [Json.members?, wanted?, Option.bind_some, value?_whole, memberTokens,
            List.cons_append, List.cons_append, List.cons_append, List.append_assoc]
          cases hname : wanted name with
          | true =>
              simp only [if_true]
              -- a wanted value that is refused ends the reading
              cases t.value? (.checked 1) 0 with
              | none => rfl
              | some v =>
                  simp only [Option.map_some, Option.bind_some, hrest]
                  cases wanted? wanted ((k', t') :: ms) <;> rfl
          | false =>
              -- another value is skipped, whatever it is
              obtain ⟨v, hv⟩ := exists_value?_skipping 0 t
              simp only [Bool.false_eq_true, if_false, hv, Option.map_some, hrest]
              cases wanted? wanted ((k', t') :: ms) <;> rfl

theorem length_le_memberTokens (ms : List (Option String × Tree)) :
    ms.length < (memberTokens ms).length := by
  induction ms with
  | nil => exact Nat.zero_lt_one
  | cons m ms ih =>
      rw [memberTokens, List.length_cons, List.length_cons, List.length_cons, List.length_cons,
        List.length_append]
      omega

/-- A text that is an object is read as a record. -/
theorem record?_of_object {cs : List Char} {ms : List (Option String × Tree)}
    (h : Token.Reads cs (Tree.object ms).tokens) : record? wanted cs = wanted? wanted ms := by
  unfold record?
  rw [Token.ofChars?_eq_some.2 h]
  cases ms with
  | nil => rfl
  | cons m ms =>
      obtain ⟨k, t⟩ := m
      have hlen : ms.length <
          (Token.string k :: .colon :: (t.tokens ++ memberTokens ms)).length := by
        have hms := length_le_memberTokens ms
        rw [List.length_cons, List.length_cons, List.length_append]
        omega
      have hread : Json.members? wanted _ (_ :: _ :: (_ ++ (_ ++ []))) = _ :=
        members?_tokens ms k t hlen
      rw [List.append_nil] at hread
      simp only [tokens, Option.bind_eq_bind, Option.bind_some, hread]
      cases wanted? wanted ((k, t) :: ms) <;> rfl

/-- What the reader of a record has gone over are the tokens of members. -/
theorem exists_members_of_members? (n : Nat) : ∀ {ts : List Token} {vs : List (String × Json)},
    (∀ t ∈ ts, t.IsWritten) → Json.members? wanted n ts = some (vs, rest) →
      ∃ k t ms, ts = .string k :: .colon :: (tokens t ++ (memberTokens ms ++ rest)) := by
  -- every round of the reader is a member, then the end or a comma and the further rounds
  induction n with
  | zero =>
      intro ts vs _ h
      cases h
  | succ n ih =>
      intro ts vs hw h
      rw [Json.members?.eq_def] at h
      dsimp only at h
      split at h
      · rename_i name r
        have hr := (List.forall_mem_cons.1 (List.forall_mem_cons.1 hw).2).2
        split at h
        · rename_i v r' hvalue
          obtain ⟨t, rfl⟩ := exists_tree_of_value? hr hvalue
          split at h
          · rename_i tail
            cases h
            exact ⟨some name, t, [], rfl⟩
          · rename_i tail
            obtain ⟨p, hmore, hp⟩ := Option.map_eq_some_iff.1 h
            obtain ⟨vs', rest'⟩ := p
            cases hp
            have htail : ∀ t ∈ tail, t.IsWritten := fun u hu =>
              hr u (List.mem_append_right _ (List.mem_cons_of_mem _ hu))
            obtain ⟨k', t', ms, rfl⟩ := ih htail hmore
            refine ⟨some name, t, (k', t') :: ms, ?_⟩
            rw [memberTokens, List.cons_append, List.cons_append, List.cons_append,
              List.append_assoc]
          · cases h
        · cases h
      · cases h

/-- A text that is read as a record is an object. -/
theorem exists_object_of_record? {cs : List Char} {vs : List (String × Json)}
    (h : record? wanted cs = some vs) : ∃ ms, Token.Reads cs (Tree.object ms).tokens := by
  simp only [record?, Option.bind_eq_bind, Option.bind_eq_some_iff, Token.ofChars?_eq_some] at h
  obtain ⟨ts, hreads, h⟩ := h
  split at h
  · exact ⟨[], hreads⟩
  · obtain ⟨p, hmembers, h⟩ := Option.bind_eq_some_iff.1 h
    split at h
    · have hw := (List.forall_mem_cons.1 hreads.written).2
      obtain ⟨k, t, ms, rfl⟩ := exists_members_of_members? _ hw hmembers
      rw [List.append_nil] at hreads
      exact ⟨(k, t) :: ms, hreads⟩
    · cases h
  · cases h

/-- The reader of a value has to use up the tokens. -/
theorem read?_eq_some {cs : List Char} {v : Json} :
    read? cs = some v ↔
      ∃ ts, Token.Reads cs ts ∧ Json.value? (.checked 0) [] ts = some (v, []) := by
  simp only [read?, Option.bind_eq_bind, Option.bind_eq_some_iff, Token.ofChars?_eq_some,
    Prod.exists]
  constructor
  · rintro ⟨ts, hreads, w, rest, hvalue, h⟩
    split at h
    · rename_i hnil
      cases h
      rw [List.isEmpty_iff.1 hnil] at hvalue
      exact ⟨ts, hreads, hvalue⟩
    · cases h
  · rintro ⟨ts, hreads, hvalue⟩
    exact ⟨ts, hreads, v, [], hvalue, rfl⟩

/-- A text that is read as a value has a tree. -/
theorem exists_tree_of_read? {cs : List Char} {v : Json} (h : read? cs = some v) :
    ∃ t : Tree, Token.Reads cs t.tokens ∧ t.value? (.checked 0) 0 = some v := by
  obtain ⟨ts, hreads, hvalue⟩ := read?_eq_some.1 h
  obtain ⟨t, rfl⟩ := exists_tree_of_value? hreads.written hvalue
  rw [value?_whole, Option.map_eq_some_iff] at hvalue
  obtain ⟨u, hu, heq⟩ := hvalue
  cases heq
  rw [List.append_nil] at hreads
  exact ⟨t, hreads, hu⟩

/-- A text with a tree is read as the value of the tree. -/
theorem read?_of_reads {cs : List Char} {t : Tree} (h : Token.Reads cs t.tokens) :
    read? cs = t.value? (.checked 0) 0 := by
  have hvalue := value?_whole (.checked 0) [] t
  rw [List.append_nil] at hvalue
  unfold read?
  rw [Token.ofChars?_eq_some.2 h]
  simp only [Option.bind_eq_bind, Option.bind_some, hvalue]
  cases t.value? (.checked 0) 0 <;> rfl

/-- The members with a name. -/
def named (name : String) (ms : List (Option String × Tree)) : List (Option String × Tree) :=
  ms.filter fun m => m.1 = some name

/-- The names that were read of a record. -/
theorem ne_none_of_wanted? {ms : List (Option String × Tree)} :
    ∀ {vs : List (String × Json)}, wanted? wanted ms = some vs → ∀ m ∈ ms, m.1 ≠ none := by
  induction ms with
  | nil => exact fun _ m hm => absurd hm List.not_mem_nil
  | cons m ms ih =>
      intro vs h
      obtain ⟨k, t⟩ := m
      rw [wanted?, Option.bind_eq_some_iff] at h
      obtain ⟨name, hk, h⟩ := h
      have hname : k ≠ none := by
        rw [show k = some name from hk]
        exact Option.some_ne_none name
      split at h
      · obtain ⟨v, -, h⟩ := Option.bind_eq_some_iff.1 h
        obtain ⟨vs', hvs, -⟩ := Option.map_eq_some_iff.1 h
        exact List.forall_mem_cons.2 ⟨hname, ih hvs⟩
      · exact List.forall_mem_cons.2 ⟨hname, ih h⟩

/-- The values that were read under a wanted name are those of the members with this name. -/
theorem named_of_wanted? {name : String} (hname : wanted name = true)
    {ms : List (Option String × Tree)} :
    ∀ {vs : List (String × Json)}, wanted? wanted ms = some vs →
      List.Forall₂ (fun m v => m.1 = some name ∧ m.2.value? (.checked 1) 0 = some v.2 ∧ v.1 = name)
        (named name ms) (vs.filter fun v => v.1 = name) := by
  induction ms with
  | nil =>
      intro vs h
      cases h
      exact .nil
  | cons m ms ih =>
      intro vs h
      obtain ⟨k, t⟩ := m
      rw [wanted?, Option.bind_eq_some_iff] at h
      obtain ⟨other, hk, h⟩ := h
      obtain rfl : k = some other := hk
      unfold named
      by_cases heq : other = name
      · subst heq
        rw [if_pos hname] at h
        obtain ⟨v, hv, h⟩ := Option.bind_eq_some_iff.1 h
        obtain ⟨vs', hvs, rfl⟩ := Option.map_eq_some_iff.1 h
        rw [List.filter_cons, List.filter_cons, if_pos (decide_eq_true rfl),
          if_pos (decide_eq_true rfl)]
        exact .cons ⟨rfl, hv, rfl⟩ (ih hvs)
      · have hother : ¬ some other = some name := fun he => heq (Option.some.inj he)
        rw [List.filter_cons_of_neg (by simpa using hother)]
        split at h
        · obtain ⟨v, -, h⟩ := Option.bind_eq_some_iff.1 h
          obtain ⟨vs', hvs, rfl⟩ := Option.map_eq_some_iff.1 h
          rw [List.filter_cons_of_neg (by simpa using heq)]
          exact ih hvs
        · exact ih h

/-- A record is read if every member has a name and those that are wanted have values. -/
theorem exists_wanted? {ms : List (Option String × Tree)}
    (h : ∀ m ∈ ms, ∃ name, m.1 = some name ∧
      (wanted name = true → ∃ v, m.2.value? (.checked 1) 0 = some v)) :
    ∃ vs, wanted? wanted ms = some vs := by
  induction ms with
  | nil => exact ⟨[], rfl⟩
  | cons m ms ih =>
      obtain ⟨hm, hms⟩ := List.forall_mem_cons.1 h
      obtain ⟨name, hname, hvalue⟩ := hm
      obtain ⟨vs, hvs⟩ := ih hms
      obtain ⟨k, t⟩ := m
      obtain rfl : k = some name := hname
      rw [wanted?, Option.bind_some]
      split
      · rename_i hwanted
        obtain ⟨v, hv⟩ := hvalue hwanted
        exact ⟨(name, v) :: vs, by rw [hv, hvs]; rfl⟩
      · exact ⟨vs, hvs⟩

/-- The only value that was read under a wanted name is that of the only member with this name. -/
theorem only?_eq_some {name : String} (hname : wanted name = true)
    {ms : List (Option String × Tree)} {vs : List (String × Json)}
    (h : wanted? wanted ms = some vs) {v : Json} :
    only? name vs = some v ↔
      ∃ t, named name ms = [(some name, t)] ∧ t.value? (.checked 1) 0 = some v := by
  have hnamed := named_of_wanted? hname h
  unfold only?
  generalize vs.filter (fun m => decide (m.1 = name)) = found at hnamed
  generalize named name ms = members at hnamed
  cases hnamed with
  | nil =>
      refine iff_of_false (fun he => by cases he) ?_
      rintro ⟨t, ht, -⟩
      cases ht
  | @cons m w ms' vs' hm hrest =>
      obtain ⟨k, t⟩ := m
      obtain ⟨rfl, hv, -⟩ := hm
      cases hrest with
      | nil =>
          constructor
          · intro he
            cases he
            exact ⟨t, rfl, hv⟩
          · rintro ⟨u, hu, hvalue⟩
            cases hu
            exact hv.symm.trans hvalue
      | cons hm' hrest' =>
          refine iff_of_false (fun he => by cases he) ?_
          rintro ⟨u, hu, -⟩
          cases hu

end Presence.Json.Tree
