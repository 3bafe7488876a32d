import Presence.Proofs.JsonTokens

/-!
# What the tokens of a value say

A tree has every name, item and member that its tokens have, also those that no reader keeps. Main
statements: `value?_tokens`, the reader goes over the tokens of a tree and gets the value of the
tree, and `exists_tree_of_value?`, what the reader goes over are the tokens of a tree.
-/

set_option autoImplicit false

namespace Presence.Json

/-- A value as it is written. A string may have escapes that name no text, a number may be too
large, and an object may have members of one name. -/
inductive Tree where
  | null
  | bool (b : Bool)
  | string (text : Option String)
  | int (n : Int)
  | float (x : Binary64)
  /-- A number outside the range of numbers. -/
  | outsized
  | array (items : List Tree)
  | object (members : List (Option String × Tree))

/-- One more container can be opened inside a number of open ones. -/
def Manner.opens (m : Manner) (outside : Nat) : Bool :=
  match m.depth with
  | some d => outside < d
  | none => true

theorem Manner.admits_eq (m : Manner) (stack : List Frame) :
    m.admits stack = m.opens stack.length := rfl

namespace Tree

mutual

/-- The tokens of a tree. -/
def tokens : Tree → List Token
  | .null => [.null]
  | .bool b => [.bool b]
  | .string t => [.string t]
  | .int n => [.number (some (.int n))]
  | .float x => [.number (some (.float x))]
  | .outsized => [.number none]
  | .array [] => [.openArray, .closeArray]
  | .array (t :: ts) => .openArray :: (tokens t ++ itemTokens ts)
  | .object [] => [.openObject, .closeObject]
  | .object ((k, t) :: ms) =>
    .openObject :: .string k :: .colon :: (tokens t ++ memberTokens ms)

/-- The tokens of the further items of an array up to its end. -/
def itemTokens : List Tree → List Token
  | [] => [.closeArray]
  | t :: ts => .comma :: (tokens t ++ itemTokens ts)

/-- The tokens of the further members of an object up to its end. -/
def memberTokens : List (Option String × Tree) → List Token
  | [] => [.closeObject]
  | (k, t) :: ms => .comma :: .string k :: .colon :: (tokens t ++ memberTokens ms)

end

mutual

/-- The value of a tree inside a number of open containers, where it is read in a manner. -/
def value? (m : Manner) (outside : Nat) : Tree → Option Json
  | .null => some .null
  | .bool b => some (.bool b)
  | .string t => (m.name? t).map .string
  | .int n => m.number? (some (.int n))
  | .float x => m.number? (some (.float x))
  | .outsized => m.number? none
  | .array ts => if m.opens outside then (values? m (outside + 1) ts).map .array else none
  | .object ms => if m.opens outside then (members? m (outside + 1) ms).map .object else none

/-- The values of items. -/
def values? (m : Manner) (outside : Nat) : List Tree → Option (List Json)
  | [] => some []
  | t :: ts =>
    (value? m outside t).bind fun v => (values? m outside ts).map fun vs => v :: vs

/-- The names and values of members. -/
def members? (m : Manner) (outside : Nat) :
    List (Option String × Tree) → Option (List (String × Json))
  | [] => some []
  | (k, t) :: ms =>
    (m.name? k).bind fun s => (value? m outside t).bind fun v =>
      (members? m outside ms).map fun vs => (s, v) :: vs

end

/-- No value begins with the end of an array. -/
theorem tokens_ne_closeArray (t : Tree) (rest r : List Token) :
    t.tokens ++ rest ≠ .closeArray :: r := by
  intro h
  unfold tokens at h
  split at h <;> cases h

section Reading

variable (m : Manner)

mutual

/-- The reader goes over the tokens of a tree and gets its value. -/
theorem value?_tokens (stack : List Frame) (rest : List Token) : ∀ t : Tree,
    Json.value? m stack (t.tokens ++ rest) =
      (t.value? m stack.length).bind fun v => resume? m v stack rest
  | .null => rfl
  | .bool b => rfl
  | .string t => by
      simp only [tokens, List.cons_append, List.nil_append, Json.value?, value?]
      cases m.name? t <;> rfl
  | .int n => by
      simp only [tokens, List.cons_append, List.nil_append, Json.value?, value?]
      cases m.number? (some (.int n)) <;> rfl
  | .float x => by
      simp only [tokens, List.cons_append, List.nil_append, Json.value?, value?]
      cases m.number? (some (.float x)) <;> rfl
  | .outsized => by
      simp only [tokens, List.cons_append, List.nil_append, Json.value?, value?]
      cases m.number? none <;> rfl
  | .array [] => by
      simp only [tokens, List.cons_append, List.nil_append, Json.value?, value?, values?]
      rw [Manner.admits_eq]
      split <;> rfl
  | .array (t :: ts) => by
      simp only [tokens, List.cons_append, List.append_assoc, value?, values?]
      rw [Json.value?.eq_6 m stack _ fun r => tokens_ne_closeArray t _ r, Manner.admits_eq]
      split
      · rw [value?_tokens (.items [] :: stack) (itemTokens ts ++ rest) t, List.length_cons]
        cases t.value? m (stack.length + 1) with
        | none => rfl
        | some v =>
            rw [Option.bind_some, resume?_items v [] stack rest ts]
            cases values? m (stack.length + 1) ts <;> rfl
      · rfl
  | .object [] => by
      simp only [tokens, List.cons_append, List.nil_append, Json.value?, value?, members?]
      rw [Manner.admits_eq]
      split <;> rfl
  | .object ((k, t) :: ms) => by
      simp only [tokens, List.cons_append, List.append_assoc, value?, members?, Json.value?]
      cases m.name? k with
      | none => cases m.opens stack.length <;> rfl
      | some s =>
          dsimp only
          rw [Manner.admits_eq]
          split
          · rw [value?_tokens (.members [] s :: stack) (memberTokens ms ++ rest) t,
              List.length_cons]
            cases t.value? m (stack.length + 1) with
            | none => rfl
            | some v =>
                rw [Option.bind_some, resume?_members v [] s stack rest ms]
                cases members? m (stack.length + 1) ms <;> rfl
          · rfl

/-- The reader goes over the further items of an array. -/
theorem resume?_items (v : Json) (before : List Json) (k : List Frame) (rest : List Token) :
    ∀ ts : List Tree, resume? m v (.items before :: k) (itemTokens ts ++ rest) =
      (values? m (k.length + 1) ts).bind fun vs =>
        resume? m (.array ((v :: before).reverse ++ vs)) k rest
  | [] => by
      simp only [itemTokens, List.cons_append, List.nil_append, resume?, values?, Option.bind_some,
        List.append_nil]
  | t :: ts => by
      simp only [itemTokens, List.cons_append, List.append_assoc, resume?, values?]
      rw [value?_tokens (.items (v :: before) :: k) (itemTokens ts ++ rest) t, List.length_cons]
      cases t.value? m (k.length + 1) with
      | none => rfl
      | some w =>
          rw [Option.bind_some, Option.bind_some, resume?_items w (v :: before) k rest ts]
          cases values? m (k.length + 1) ts with
          | none => rfl
          | some ws =>
              simp only [Option.bind_some, Option.map_some, List.reverse_cons, List.append_assoc,
                List.cons_append, List.nil_append]

/-- The reader goes over the further members of an object. -/
theorem resume?_members (v : Json) (before : List (String × Json)) (name : String)
    (k : List Frame) (rest : List Token) : ∀ ms : List (Option String × Tree),
    resume? m v (.members before name :: k) (memberTokens ms ++ rest) =
      (members? m (k.length + 1) ms).bind fun vs =>
        resume? m (.object (((name, v) :: before).reverse ++ vs)) k rest
  | [] => by
      simp only [memberTokens, List.cons_append, List.nil_append, resume?, members?,
        Option.bind_some, List.append_nil]
  | (n, t) :: ms => by
      simp only [memberTokens, List.cons_append, List.append_assoc, resume?, members?]
      cases m.name? n with
      | none => rfl
      | some s =>
          dsimp only
          rw [value?_tokens (.members ((name, v) :: before) s :: k) (memberTokens ms ++ rest) t,
            List.length_cons, Option.bind_some]
          cases t.value? m (k.length + 1) with
          | none => rfl
          | some w =>
              rw [Option.bind_some, Option.bind_some,
                resume?_members w ((name, v) :: before) s k rest ms]
              cases members? m (k.length + 1) ms with
              | none => rfl
              | some ws =>
                  simp only [Option.bind_some, Option.map_some, List.reverse_cons,
                    List.append_assoc, List.cons_append, List.nil_append]

end

/-- With nothing open the reader stops after the value. -/
theorem value?_whole (rest : List Token) (t : Tree) :
    Json.value? m [] (t.tokens ++ rest) = (t.value? m 0).map fun v => (v, rest) := by
  rw [value?_tokens, List.length_nil]
  cases t.value? m 0 with
  | none => rfl
  | some v => rw [Option.bind_some, resume?, Option.map_some]

end Reading

/-! ## Every value has a tree -/

/-- What open containers still need of the tokens, up to a rest. -/
inductive Closes : List Frame → List Token → List Token → Prop where
  | done {rest : List Token} : Closes [] rest rest
  | items {before : List Json} {k : List Frame} {r rest : List Token} (ts : List Tree)
      (h : Closes k r rest) : Closes (.items before :: k) (itemTokens ts ++ r) rest
  | members {before : List (String × Json)} {name : String} {k : List Frame}
      {r rest : List Token} (ms : List (Option String × Tree)) (h : Closes k r rest) :
      Closes (.members before name :: k) (memberTokens ms ++ r) rest

/-- Tokens that begin with those of a tree and then close what is open. -/
def Begun (stack : List Frame) (ts rest : List Token) : Prop :=
  ∃ t r, ts = tokens t ++ r ∧ Closes stack r rest

variable {m : Manner} {stack : List Frame} {r rest : List Token}

theorem Closes.begun {ts : List Token} {t : Tree} (h : Closes stack r rest)
    (hts : tokens t ++ r = ts) : Begun stack ts rest := ⟨t, r, hts.symm, h⟩

theorem Begun.array {before : List Json} (h : Begun (.items before :: stack) r rest) :
    Begun stack (.openArray :: r) rest := by
  obtain ⟨t, r', rfl, hcloses⟩ := h
  cases hcloses with
  | items ts h =>
      refine h.begun (t := .array (t :: ts)) ?_
      rw [tokens, List.cons_append, List.append_assoc]

theorem Begun.object {before : List (String × Json)} {name : String} {k : Option String}
    (h : Begun (.members before name :: stack) r rest) :
    Begun stack (.openObject :: .string k :: .colon :: r) rest := by
  obtain ⟨t, r', rfl, hcloses⟩ := h
  cases hcloses with
  | members ms h =>
      refine h.begun (t := .object ((k, t) :: ms)) ?_
      rw [tokens, List.cons_append, List.cons_append, List.cons_append, List.append_assoc]

theorem Begun.item {before before' : List Json} (h : Begun (.items before :: stack) r rest) :
    Closes (.items before' :: stack) (.comma :: r) rest := by
  obtain ⟨t, r', rfl, hcloses⟩ := h
  cases hcloses with
  | @items _ _ r _ ts h =>
      have hitems : Closes (.items before' :: stack) (itemTokens (t :: ts) ++ r) rest :=
        h.items (t :: ts)
      rwa [itemTokens, List.cons_append, List.append_assoc] at hitems

theorem Begun.member {before before' : List (String × Json)} {name name' : String}
    {k : Option String} (h : Begun (.members before name :: stack) r rest) :
    Closes (.members before' name' :: stack) (.comma :: .string k :: .colon :: r) rest := by
  obtain ⟨t, r', rfl, hcloses⟩ := h
  cases hcloses with
  | @members _ _ _ r _ ms h =>
      have hmembers : Closes (.members before' name' :: stack)
          (memberTokens ((k, t) :: ms) ++ r) rest := h.members ((k, t) :: ms)
      rwa [memberTokens, List.cons_append, List.cons_append, List.cons_append,
        List.append_assoc] at hmembers

/-- Tokens of which the reader makes a value begin with those of a tree. -/
def Reads (m : Manner) (stack : List Frame) (ts : List Token) : Prop :=
  (∀ t ∈ ts, t.IsWritten) → ∀ v rest, Json.value? m stack ts = some (v, rest) → Begun stack ts rest

/-- Tokens with which the reader goes on after a value close what is open. -/
def GoesOn (m : Manner) (v : Json) (stack : List Frame) (r : List Token) : Prop :=
  (∀ t ∈ r, t.IsWritten) → ∀ w rest, resume? m v stack r = some (w, rest) → Closes stack r rest

section Steps

variable {v : Json} {ts : List Token}

/-- What the reader refuses has no value. -/
theorem Reads.of_none (h : Json.value? m stack ts = none) : Reads m stack ts := by
  intro _ w rest hs
  rw [h] at hs
  cases hs

theorem GoesOn.of_none (h : resume? m v stack r = none) : GoesOn m v stack r := by
  intro _ w rest hs
  rw [h] at hs
  cases hs

/-- The reader goes over all tokens of a tree at once. -/
theorem GoesOn.reads_tokens (t : Tree) (ih : GoesOn m v stack r)
    (hread : Json.value? m stack (tokens t ++ r) = resume? m v stack r) :
    Reads m stack (tokens t ++ r) := by
  intro hw w rest h
  rw [hread] at h
  exact (ih (List.forall_mem_append.1 hw).2 w rest h).begun rfl

/-- A number that is too large is one of a tree too. -/
theorem GoesOn.reads_number {x : Option Json} (ih : GoesOn m v stack r)
    (hread : Json.value? m stack (.number x :: r) = resume? m v stack r) :
    Reads m stack (.number x :: r) := by
  intro hw w rest h
  rw [hread] at h
  obtain ⟨hx, hr⟩ := List.forall_mem_cons.1 hw
  have hcloses := ih hr w rest h
  cases x with
  | none => exact hcloses.begun (t := .outsized) rfl
  | some x =>
      rcases hx with ⟨n, rfl⟩ | ⟨f, rfl⟩
      · exact hcloses.begun (t := .int n) rfl
      · exact hcloses.begun (t := .float f) rfl

theorem Reads.openArray (ih : Reads m (.items [] :: stack) r)
    (hread : Json.value? m stack (.openArray :: r) = Json.value? m (.items [] :: stack) r) :
    Reads m stack (.openArray :: r) := by
  intro hw w rest h
  rw [hread] at h
  exact (ih (List.forall_mem_cons.1 hw).2 w rest h).array

theorem Reads.openObject {name : String} {k : Option String}
    (ih : Reads m (.members [] name :: stack) r)
    (hread : Json.value? m stack (.openObject :: .string k :: .colon :: r) =
      Json.value? m (.members [] name :: stack) r) :
    Reads m stack (.openObject :: .string k :: .colon :: r) := by
  intro hw w rest h
  rw [hread] at h
  have hr := (List.forall_mem_cons.1 (List.forall_mem_cons.1 (List.forall_mem_cons.1 hw).2).2).2
  exact (ih hr w rest h).object

theorem goesOn_done (m : Manner) (v : Json) (r : List Token) : GoesOn m v [] r := by
  intro _ w rest h
  rw [resume?] at h
  cases h
  exact .done

theorem Reads.nextItem {before : List Json} (ih : Reads m (.items (v :: before) :: stack) r) :
    GoesOn m v (.items before :: stack) (.comma :: r) := by
  intro hw w rest h
  rw [resume?] at h
  exact (ih (List.forall_mem_cons.1 hw).2 w rest h).item

theorem GoesOn.closeArray {before : List Json}
    (ih : GoesOn m (.array (v :: before).reverse) stack r) :
    GoesOn m v (.items before :: stack) (.closeArray :: r) := by
  intro hw w rest h
  rw [resume?] at h
  exact (ih (List.forall_mem_cons.1 hw).2 w rest h).items []

theorem Reads.nextMember {before : List (String × Json)} {name next : String} {k : Option String}
    (hname : m.name? k = some next)
    (ih : Reads m (.members ((name, v) :: before) next :: stack) r) :
    GoesOn m v (.members before name :: stack) (.comma :: .string k :: .colon :: r) := by
  intro hw w rest h
  rw [resume?, hname] at h
  have hr := (List.forall_mem_cons.1 (List.forall_mem_cons.1 (List.forall_mem_cons.1 hw).2).2).2
  exact (ih hr w rest h).member

theorem GoesOn.closeObject {before : List (String × Json)} {name : String}
    (ih : GoesOn m (.object ((name, v) :: before).reverse) stack r) :
    GoesOn m v (.members before name :: stack) (.closeObject :: r) := by
  intro hw w rest h
  rw [resume?] at h
  exact (ih (List.forall_mem_cons.1 hw).2 w rest h).members []

end Steps

/-- What the reader has gone over begins with the tokens of a tree, and what it goes on with closes
what is open. -/
theorem begun_of_value? (m : Manner) :
    (∀ stack ts, Reads m stack ts) ∧ ∀ v stack r, GoesOn m v stack r := by
  refine Json.value?.mutual_induct m (Reads m) (GoesOn m)
    ?null ?bool ?string ?stringBad ?number ?numberBad ?emptyArray ?emptyArrayDeep ?openArray
    ?openArrayDeep ?emptyObject ?emptyObjectDeep ?openObject ?openObjectDeep ?openObjectBad ?other
    ?finished ?nextItem ?closeArray ?nextMember ?nextMemberBad ?closeObject ?stuck
  case null => exact fun stack r ih => ih.reads_tokens .null rfl
  case bool => exact fun stack b r ih => ih.reads_tokens (.bool b) rfl
  case string =>
    exact fun stack t r s hs ih => ih.reads_tokens (.string t) (by simp [tokens, Json.value?, hs])
  case number => exact fun stack x r y hy ih => ih.reads_number (by rw [Json.value?, hy])
  case emptyArray =>
    exact fun stack r hopens ih =>
      ih.reads_tokens (.array []) (by simp [tokens, Json.value?, hopens])
  case openArray =>
    exact fun stack r hne hopens ih =>
      ih.openArray (by rw [Json.value?.eq_6 m stack r hne, if_pos hopens])
  case emptyObject =>
    exact fun stack r hopens ih =>
      ih.reads_tokens (.object []) (by simp [tokens, Json.value?, hopens])
  case openObject =>
    exact fun stack t r s hs hopens ih => ih.openObject (by simp [Json.value?, hs, hopens])
  case finished => exact goesOn_done m
  case nextItem => exact fun v before k r ih => ih.nextItem
  case closeArray => exact fun v before k r ih => ih.closeArray
  case nextMember => exact fun v before name k t r s hs ih => ih.nextMember hs
  case closeObject => exact fun v before name k r ih => ih.closeObject
  case stringBad => exact fun stack t r hs => .of_none (by rw [Json.value?, hs])
  case numberBad => exact fun stack x r hx => .of_none (by rw [Json.value?, hx])
  case emptyArrayDeep => exact fun stack r hopens => .of_none (by rw [Json.value?, if_neg hopens])
  case openArrayDeep =>
    exact fun stack r hne hopens => .of_none (by rw [Json.value?.eq_6 m stack r hne, if_neg hopens])
  case emptyObjectDeep => exact fun stack r hopens => .of_none (by rw [Json.value?, if_neg hopens])
  case openObjectDeep =>
    exact fun stack t r s hs hopens => .of_none (by simp [Json.value?, hs, hopens])
  case openObjectBad => exact fun stack t r hs => .of_none (by rw [Json.value?, hs])
  case other =>
    exact fun ts stack h1 h2 h3 h4 h5 h6 h7 h8 =>
      .of_none (Json.value?.eq_9 m stack ts h1 h2 h3 h4 h5 h6 h7 h8)
  case nextMemberBad => exact fun v before name k t r hs => .of_none (by rw [resume?, hs])
  case stuck =>
    exact fun r v stack h1 h2 h3 h4 h5 => .of_none (resume?.eq_6 m v stack r h1 h2 h3 h4 h5)

/-- A value that the reader gets from tokens comes from the tokens of a tree. -/
theorem exists_tree_of_value? {ts : List Token} {v : Json} (hw : ∀ t ∈ ts, t.IsWritten)
    (h : Json.value? m [] ts = some (v, rest)) : ∃ t, ts = tokens t ++ rest := by
  obtain ⟨t, r, rfl, hcloses⟩ := (begun_of_value? m).1 [] ts hw v rest h
  cases hcloses
  exact ⟨t, rfl⟩

/-! ## Values that are looked at -/

/-- In a checked reading a value is like its tree. -/
inductive HasValue (d n : Nat) : Tree → Json → Prop where
  | null : HasValue d n .null .null
  | bool (b : Bool) : HasValue d n (.bool b) (.bool b)
  | string (s : String) : HasValue d n (.string (some s)) (.string s)
  | int (i : Int) : HasValue d n (.int i) (.int i)
  | float (x : Binary64) : HasValue d n (.float x) (.float x)
  | array {ts : List Tree} {vs : List Json} (h : values? (.checked d) (n + 1) ts = some vs) :
      HasValue d n (.array ts) (.array vs)
  | object {ms : List (Option String × Tree)} {vs : List (String × Json)}
      (h : members? (.checked d) (n + 1) ms = some vs) : HasValue d n (.object ms) (.object vs)

theorem hasValue_of_value? {d n : Nat} {t : Tree} {v : Json}
    (h : t.value? (.checked d) n = some v) : HasValue d n t v := by
  cases t with
  | null =>
      cases h
      exact .null
  | bool b =>
      cases h
      exact .bool b
  | string s =>
      cases s with
      | none => cases h
      | some s =>
          cases h
          exact .string s
  | int i =>
      cases h
      exact .int i
  | float x =>
      cases h
      exact .float x
  | outsized => cases h
  | array ts =>
      rw [value?] at h
      split at h
      · obtain ⟨vs, hvs, rfl⟩ := Option.map_eq_some_iff.1 h
        exact .array hvs
      · cases h
  | object ms =>
      rw [value?] at h
      split at h
      · obtain ⟨vs, hvs, rfl⟩ := Option.map_eq_some_iff.1 h
        exact .object hvs
      · cases h

theorem values?_cons {m : Manner} {n : Nat} {t : Tree} {ts : List Tree} {vs : List Json} :
    values? m n (t :: ts) = some vs ↔
      ∃ v vs', t.value? m n = some v ∧ values? m n ts = some vs' ∧ vs = v :: vs' := by
  rw [values?, Option.bind_eq_some_iff]
  constructor
  · rintro ⟨v, hv, h⟩
    obtain ⟨vs', hvs, rfl⟩ := Option.map_eq_some_iff.1 h
    exact ⟨v, vs', hv, hvs, rfl⟩
  · rintro ⟨v, vs', hv, hvs, rfl⟩
    exact ⟨v, hv, by rw [hvs]; rfl⟩

theorem members?_cons {m : Manner} {n : Nat} {k : Option String} {t : Tree}
    {ms : List (Option String × Tree)} {vs : List (String × Json)} :
    members? m n ((k, t) :: ms) = some vs ↔
      ∃ s v vs', m.name? k = some s ∧ t.value? m n = some v ∧ members? m n ms = some vs' ∧
        vs = (s, v) :: vs' := by
  rw [members?, Option.bind_eq_some_iff]
  constructor
  · rintro ⟨s, hs, h⟩
    obtain ⟨v, hv, h⟩ := Option.bind_eq_some_iff.1 h
    obtain ⟨vs', hvs, rfl⟩ := Option.map_eq_some_iff.1 h
    exact ⟨s, v, vs', hs, hv, hvs, rfl⟩
  · rintro ⟨s, v, vs', hs, hv, hvs, rfl⟩
    exact ⟨s, hs, by rw [hv, hvs]; rfl⟩

/-- Only a lone member without a value has the value of one. -/
theorem members?_eq_lone {d n : Nat} {ms : List (Option String × Tree)} {s : String}
    (h : members? (.checked d) n ms = some [(s, .null)]) : ms = [(some s, .null)] := by
  cases ms with
  | nil => cases h
  | cons m ms =>
      obtain ⟨k, t⟩ := m
      obtain ⟨name, v, vs, hk, hv, hvs, heq⟩ := members?_cons.1 h
      cases heq
      obtain rfl : k = some s := hk
      cases hasValue_of_value? hv with
      | null =>
          cases ms with
          | nil => rfl
          | cons m ms =>
              obtain ⟨name, w, ws, -, -, -, heq⟩ := members?_cons.1 hvs
              cases heq

/-! ## Values that are skipped -/

mutual

/-- Nothing is refused where nobody looks. -/
theorem exists_value?_skipping (n : Nat) : ∀ t : Tree, ∃ v, t.value? .skipping n = some v
  | .null => ⟨_, rfl⟩
  | .bool b => ⟨_, rfl⟩
  | .string t => ⟨_, rfl⟩
  | .int i => ⟨_, rfl⟩
  | .float x => ⟨_, rfl⟩
  | .outsized => ⟨_, rfl⟩
  | .array ts => by
      obtain ⟨vs, hvs⟩ := exists_values?_skipping (n + 1) ts
      exact ⟨.array vs, by rw [value?, hvs]; rfl⟩
  | .object ms => by
      obtain ⟨vs, hvs⟩ := exists_members?_skipping (n + 1) ms
      exact ⟨.object vs, by rw [value?, hvs]; rfl⟩

theorem exists_values?_skipping (n : Nat) : ∀ ts : List Tree, ∃ vs, values? .skipping n ts = some vs
  | [] => ⟨_, rfl⟩
  | t :: ts => by
      obtain ⟨v, hv⟩ := exists_value?_skipping n t
      obtain ⟨vs, hvs⟩ := exists_values?_skipping n ts
      exact ⟨v :: vs, by rw [values?, hv, hvs]; rfl⟩

theorem exists_members?_skipping (n : Nat) :
    ∀ ms : List (Option String × Tree), ∃ vs, members? .skipping n ms = some vs
  | [] => ⟨_, rfl⟩
  | (k, t) :: ms => by
      obtain ⟨v, hv⟩ := exists_value?_skipping n t
      obtain ⟨vs, hvs⟩ := exists_members?_skipping n ms
      exact ⟨(k.getD "", v) :: vs, by rw [members?, hv, hvs]; rfl⟩

end

end Tree

end Presence.Json
