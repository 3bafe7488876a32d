import Presence.Proofs.DayKeys
import Presence.Proofs.Decimal
import Presence.Proofs.JsonRecords

/-!
# Reading what was written

A value without fractions whose integers fit in a word is read back from its text, as long as no
more containers are open at a time than the reader admits (`Json.Plain`). Main statements:
`Plain.reads_write`, the text of such a value is taken apart into the tokens of its tree,
`Plain.value?_tree`, this tree has the value that was written, `Plain.read?_write`, the value is read
back, and `record?_text`, a record is read back member by member.
-/

set_option autoImplicit false

namespace Presence.Json

/-! ## Numbers -/

namespace Token

/-- The digits of a number begin with a zero only where they are this zero. -/
theorem wholePart_toDigits (n : Nat) :
    wholePart (Nat.toDigits 10 n) = some (Nat.toDigits 10 n, []) := by
  have hdigit : ∀ c ∈ Nat.toDigits 10 n, c.isDigit = true := fun c =>
    Nat.isDigit_of_mem_toDigits (by decide) (by decide)
  by_cases hzero : (Nat.toDigits 10 n).head? = some '0'
  · obtain ⟨tail, hcons⟩ := List.head?_eq_some_iff.1 hzero
    have htail : tail = [] := by
      by_contra hne
      -- without its zero the number would be as large, but shorter
      have hvalue : n = Nat.ofDigitChars 10 tail 0 := by
        have hwhole := Text.ofDigitChars_cons_zero '0' tail
        rw [← hcons, Nat.ofDigitChars_ten_toDigits] at hwhole
        simpa using hwhole
      have hlt : n < 10 ^ tail.length :=
        hvalue ▸ Text.ofDigitChars_lt fun c hc => hdigit c (hcons ▸ List.mem_cons_of_mem _ hc)
      have hshort := (Nat.length_toDigits_le_iff (by decide) (List.length_pos_iff.2 hne)).2 hlt
      rw [hcons, List.length_cons] at hshort
      omega
    rw [hcons, htail]
    rfl
  · rw [wholePart_of_ne hzero]
    have hrun : digitRun (Nat.toDigits 10 n) = (Nat.toDigits 10 n, []) :=
      Prod.ext (List.takeWhile_eq_self_iff.2 hdigit) (List.dropWhile_eq_nil_iff.2 hdigit)
    rw [hrun, if_neg fun hnil => Nat.toDigits_ne_nil (List.isEmpty_iff.1 hnil)]

/-- The digits of a number have no point and no exponent. -/
theorem unsigned?_toDigits (negative : Bool) (n : Nat) :
    unsigned? negative (Nat.toDigits 10 n) =
      some (numberValue negative (Nat.toDigits 10 n) none none, []) :=
  unsigned?_eq_some.2 ⟨_, [], none, [], none, wholePart_toDigits n, rfl, rfl, rfl⟩

/-- An integer of a word is the number of its text. -/
theorem number?_toString {n : Int} (h : isWord n = true) :
    number? (toString n).toList = some (some (.int n), []) := by
  have hvalue : numberValue (decide (n < 0)) (Nat.toDigits 10 n.natAbs) none none =
      some (.int n) := by
    have hint : (if decide (n < 0) = true then -(n.natAbs : Int) else n.natAbs) = n := by
      split <;> simp only [decide_eq_true_eq] at * <;> omega
    have hzero : (decide (n < 0) && decide (n.natAbs = 0)) = false := by
      simp only [Bool.and_eq_false_iff, decide_eq_false_iff_not]
      omega
    unfold numberValue
    simp only [Nat.ofDigitChars_ten_toDigits, hint, hzero, h, Option.isNone_none, Bool.and_self,
      Bool.not_false, if_true]
  rw [Text.toList_toString]
  split
  · rename_i hneg
    rw [decide_eq_true hneg] at hvalue
    exact (unsigned?_toDigits true n.natAbs).trans (by rw [hvalue])
  · rename_i hneg
    rw [decide_eq_false hneg] at hvalue
    have hsign : (Nat.toDigits 10 n.natAbs).head? ≠ some '-' := by
      intro hminus
      have hdigit := Nat.isDigit_of_mem_toDigits (by decide) (by decide)
        (List.mem_of_mem_head? hminus)
      exact absurd hdigit (by decide)
    rw [number?_of_ne hsign, unsigned?_toDigits, hvalue]

theorem first?_toString {n : Int} (h : isWord n = true) {rest : List Char} (hrest : Clear rest) :
    first? ((toString n).toList ++ rest) = some (.number (some (.int n)), rest) := by
  have hread := (steady_number? (number?_toString h)).2 rest fun _ => hrest
  obtain ⟨c, tail, hcons, hbegins⟩ := begins_of_number? hread
  rw [hcons, first?_of_begins hbegins, ← hcons, hread]
  rfl

end Token

/-! ## Values that can be read back -/

/-- The values without fractions whose integers fit in a word and whose containers are nested in at
most a number of levels. -/
inductive Plain : Nat → Json → Prop where
  | null {levels : Nat} : Plain levels .null
  | bool {levels : Nat} (b : Bool) : Plain levels (.bool b)
  | int {levels : Nat} {n : Int} (h : isWord n = true) : Plain levels (.int n)
  | string {levels : Nat} (s : String) : Plain levels (.string s)
  | array {levels : Nat} {items : List Json} (h : ∀ v ∈ items, Plain levels v) :
      Plain (levels + 1) (.array items)
  | object {levels : Nat} {members : List (String × Json)} (h : ∀ m ∈ members, Plain levels m.2) :
      Plain (levels + 1) (.object members)

mutual

/-- The tree of a value. -/
def tree : Json → Tree
  | .null => .null
  | .bool b => .bool b
  | .int n => .int n
  | .float x => .float x
  | .string s => .string (some s)
  | .array items => .array (itemTrees items)
  | .object members => .object (memberTrees members)

/-- The trees of items. -/
def itemTrees : List Json → List Tree
  | [] => []
  | v :: rest => tree v :: itemTrees rest

/-- The members with the trees of their values. -/
def memberTrees : List (String × Json) → List (Option String × Tree)
  | [] => []
  | (k, v) :: rest => (some k, tree v) :: memberTrees rest

end

/-! ## The tokens of a text -/

/-- A text that goes on after a value is taken apart into the tokens of the value and those of the
rest. -/
def ReadsBack (v : Json) : Prop :=
  ∀ {rest : List Char} {ts : List Token}, Token.Clear rest → Token.Reads rest ts →
    Token.Reads (write v ++ rest) ((tree v).tokens ++ ts)

theorem clear_cons {c : Char} (rest : List Char)
    (h : c.isDigit = false ∧ c ≠ '.' ∧ c ≠ 'e' ∧ c ≠ 'E') : Token.Clear (c :: rest) := by
  intro d hd
  obtain rfl := Option.some.inj hd
  exact h

theorem reads_quoted (s : String) {rest : List Char} {ts : List Token}
    (h : Token.Reads rest ts) : Token.Reads (quoted s ++ rest) (.string (some s) :: ts) :=
  .cons rfl (Token.first?_quoted s rest) h

theorem reads_toString {n : Int} (hn : isWord n = true) {rest : List Char} {ts : List Token}
    (hrest : Token.Clear rest) (h : Token.Reads rest ts) :
    Token.Reads ((toString n).toList ++ rest) (.number (some (.int n)) :: ts) := by
  have hfirst := Token.first?_toString hn hrest
  refine .cons ?_ hfirst h
  -- a number begins with no blank
  obtain ⟨c, tail, hcons, hbegins⟩ := Token.begins_of_number? (Token.number?_toString hn)
  rw [hcons, List.cons_append, List.dropWhile_cons, if_neg]
  rcases hbegins with hdigit | rfl
  · intro hgap
    have hno := (Token.clear_of_gap hgap [] c rfl).1
    exact absurd (hdigit.symm.trans hno) (by decide)
  · decide

section Containers

variable {rest : List Char} {ts : List Token}

theorem reads_items (hrest : Token.Reads rest ts) {xs : List Json} :
    ∀ {v : Json}, ReadsBack v → (∀ x ∈ xs, ReadsBack x) →
      Token.Reads (writeItems (v :: xs) ++ ']' :: rest)
        ((tree v).tokens ++ (Tree.itemTokens (itemTrees xs) ++ ts)) := by
  induction xs with
  | nil =>
      intro v hv _
      exact hv (clear_cons _ (by decide)) (.cons rfl rfl hrest)
  | cons x xs ih =>
      intro v hv hxs
      obtain ⟨hx, hxs⟩ := List.forall_mem_cons.1 hxs
      have hmore := ih hx hxs
      rw [writeItems, List.append_assoc, List.cons_append, itemTrees, Tree.itemTokens,
        List.cons_append, List.append_assoc]
      exact hv (clear_cons _ (by decide)) (.cons rfl rfl hmore)

theorem reads_members (hrest : Token.Reads rest ts) {ms : List (String × Json)} :
    ∀ {k : String} {v : Json}, ReadsBack v → (∀ m ∈ ms, ReadsBack m.2) →
      Token.Reads (writeMembers ((k, v) :: ms) ++ '\x7d' :: rest)
        (.string (some k) :: .colon ::
          ((tree v).tokens ++ (Tree.memberTokens (memberTrees ms) ++ ts))) := by
  induction ms with
  | nil =>
      intro k v hv _
      rw [writeMembers, List.append_assoc, List.cons_append]
      exact reads_quoted k (.cons rfl rfl (hv (clear_cons _ (by decide)) (.cons rfl rfl hrest)))
  | cons m ms ih =>
      intro k v hv hms
      obtain ⟨k', v'⟩ := m
      obtain ⟨hm, hms⟩ := List.forall_mem_cons.1 hms
      have hmore := ih (k := k') hm hms
      rw [writeMembers, List.append_assoc, List.append_assoc, List.cons_append, List.cons_append,
        memberTrees, Tree.memberTokens, List.cons_append, List.cons_append, List.cons_append,
        List.append_assoc]
      exact reads_quoted k (.cons rfl rfl (hv (clear_cons _ (by decide)) (.cons rfl rfl hmore)))

end Containers

/-- The text of a value is taken apart into the tokens of its tree. -/
theorem Plain.readsBack {levels : Nat} {v : Json} (h : Plain levels v) : ReadsBack v := by
  induction h with
  | null => exact fun _ h => .cons rfl rfl h
  | bool b =>
      cases b with
      | false => exact fun _ h => .cons rfl rfl h
      | true => exact fun _ h => .cons rfl rfl h
  | int hn => exact fun hrest h => reads_toString hn hrest h
  | string s => exact fun _ h => reads_quoted s h
  | @array levels items _ ih =>
      intro rest ts _ h
      cases items with
      | nil => exact .cons rfl rfl (.cons rfl rfl h)
      | cons v items =>
          obtain ⟨hv, hitems⟩ := List.forall_mem_cons.1 ih
          simp only [write, tree, itemTrees, Tree.tokens, List.cons_append, List.append_assoc,
            List.nil_append]
          exact .cons rfl rfl (reads_items h hv hitems)
  | @object levels members _ ih =>
      intro rest ts _ h
      cases members with
      | nil => exact .cons rfl rfl (.cons rfl rfl h)
      | cons m members =>
          obtain ⟨k, v⟩ := m
          obtain ⟨hv, hmembers⟩ := List.forall_mem_cons.1 ih
          simp only [write, tree, memberTrees, Tree.tokens, List.cons_append, List.append_assoc,
            List.nil_append]
          exact .cons rfl rfl (reads_members h hv hmembers)

theorem Plain.reads_write {levels : Nat} {v : Json} (h : Plain levels v) :
    Token.Reads (write v) (tree v).tokens := by
  have hreads : Token.Reads (write v ++ []) ((tree v).tokens ++ []) :=
    h.readsBack (fun c hc => nomatch hc) (.nil rfl)
  rwa [List.append_nil, List.append_nil] at hreads

/-! ## The value of a tree -/

section Values

variable {m : Manner} {outside levels : Nat}

theorem values?_itemTrees {items : List Json}
    (h : ∀ v ∈ items, (tree v).value? m outside = some v) :
    Tree.values? m outside (itemTrees items) = some items := by
  induction items with
  | nil => rfl
  | cons v items ih =>
      obtain ⟨hv, hitems⟩ := List.forall_mem_cons.1 h
      rw [itemTrees, Tree.values?, hv, ih hitems]
      rfl

theorem members?_memberTrees {members : List (String × Json)}
    (h : ∀ p ∈ members, (tree p.2).value? m outside = some p.2) :
    Tree.members? m outside (memberTrees members) = some members := by
  induction members with
  | nil => rfl
  | cons p members ih =>
      obtain ⟨k, v⟩ := p
      obtain ⟨hv, hmembers⟩ := List.forall_mem_cons.1 h
      have hname : m.name? (some k) = some k := by
        unfold Manner.name?
        split <;> rfl
      rw [memberTrees, Tree.members?, hname, Option.bind_some, hv, ih hmembers]
      rfl

/-- The tree of a value has this value, if its containers can all be opened. -/
theorem Plain.value?_tree {v : Json} (h : Plain levels v)
    (hm : ∀ n < outside + levels, m.opens n = true) : (tree v).value? m outside = some v := by
  induction h generalizing outside with
  | null => rfl
  | bool b => rfl
  | int hn =>
      show m.number? (some _) = some _
      unfold Manner.number?
      split <;> rfl
  | string s =>
      show (m.name? (some s)).map Json.string = some _
      unfold Manner.name?
      split <;> rfl
  | @array _ items _ ih =>
      have hitems : Tree.values? m (outside + 1) (itemTrees items) = some items :=
        values?_itemTrees fun v hv => ih v hv fun n hn => hm n (by omega)
      rw [tree, Tree.value?, if_pos (hm outside (by omega)), hitems]
      rfl
  | @object _ members _ ih =>
      have hmembers : Tree.members? m (outside + 1) (memberTrees members) = some members :=
        members?_memberTrees fun p hp => ih p hp fun n hn => hm n (by omega)
      rw [tree, Tree.value?, if_pos (hm outside (by omega)), hmembers]
      rfl

theorem opens_checked {inside n : Nat} (h : n + inside < 127) :
    (Manner.checked inside).opens n = true :=
  decide_eq_true (by omega)

/-- A value is read back from its text. -/
theorem Plain.read?_write {v : Json} (h : Plain 127 v) : read? (write v) = some v := by
  rw [Tree.read?_of_reads h.reads_write]
  exact h.value?_tree fun n hn => opens_checked (by omega)

theorem wanted?_memberTrees (wanted : String → Bool) {members : List (String × Json)}
    (h : ∀ p ∈ members, Plain 126 p.2) :
    Tree.wanted? wanted (memberTrees members) = some (members.filter fun p => wanted p.1) := by
  induction members with
  | nil => rfl
  | cons p members ih =>
      obtain ⟨k, v⟩ := p
      obtain ⟨hv, hmembers⟩ := List.forall_mem_cons.1 h
      have hvalue : (tree v).value? (.checked 1) 0 = some v :=
        hv.value?_tree fun n hn => opens_checked (by omega)
      rw [memberTrees, Tree.wanted?, Option.bind_some, List.filter_cons]
      split
      · rw [hvalue, ih hmembers]
        rfl
      · exact ih hmembers

/-- The members of a record that are wanted are read back one by one. -/
theorem record?_text (wanted : String → Bool) {members : List (String × Json)}
    (h : ∀ p ∈ members, Plain 126 p.2) :
    record? wanted (Json.object members).text.toList =
      some (members.filter fun p => wanted p.1) := by
  have hreads : Token.Reads (write (.object members)) (Tree.object (memberTrees members)).tokens :=
    (Plain.object h).reads_write
  rw [text, String.toList_ofList, Tree.record?_of_object hreads, wanted?_memberTrees wanted h]

end Values

end Presence.Json
