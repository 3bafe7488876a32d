import Mathlib.Data.List.TakeWhile
import Presence.Json.Reader
import Presence.Json.Writer

/-!
# Texts and their tokens

Taking a text apart goes token after token, and a token stays the same when the text goes on, unless
it is a number at the end of the text that could grow. Main statements: `fronts_of_first?`, how a
token lies at the front of a text, `first?_quoted`, a quoted string is the token of this string, and
`Reads.append_gap`, blanks between two texts keep their tokens apart.
-/

set_option autoImplicit false

namespace Presence.Json.Token

/-! ## Parts of a number -/

/-- A text does not go on with what could belong to a number before it. -/
def Clear (r : List Char) : Prop :=
  ∀ c ∈ r.head?, c.isDigit = false ∧ c ≠ '.' ∧ c ≠ 'e' ∧ c ≠ 'E'

/-- What was read from the front of a text stays the same when the text goes on, unless it reaches
to the end and could grow. -/
def Steady {α : Type} (part : List Char → Option (α × List Char)) : Prop :=
  ∀ ⦃cs : List Char⦄ ⦃x : α⦄ ⦃rest : List Char⦄, part cs = some (x, rest) →
    rest.length ≤ cs.length ∧
      ∀ r, (rest = [] → Clear r) → part (cs ++ r) = some (x, rest ++ r)

theorem Clear.takeWhile_isDigit {r : List Char} (h : Clear r) : r.takeWhile Char.isDigit = [] := by
  cases r with
  | nil => rfl
  | cons c r => rw [List.takeWhile_cons, (h c rfl).1, if_neg Bool.false_ne_true]

theorem Clear.dropWhile_isDigit {r : List Char} (h : Clear r) : r.dropWhile Char.isDigit = r := by
  cases r with
  | nil => rfl
  | cons c r => rw [List.dropWhile_cons, (h c rfl).1, if_neg Bool.false_ne_true]

theorem digitRun_append {cs r : List Char} (h : (digitRun cs).2 = [] → Clear r) :
    digitRun (cs ++ r) = ((digitRun cs).1, (digitRun cs).2 ++ r) := by
  unfold digitRun at *
  refine Prod.ext ?_ ?_
  · show (cs ++ r).takeWhile Char.isDigit = cs.takeWhile Char.isDigit
    rw [List.takeWhile_append]
    split
    · rename_i hall
      have hwhole : cs.takeWhile Char.isDigit = cs :=
        (List.takeWhile_prefix Char.isDigit).eq_of_length hall
      have hend : cs.dropWhile Char.isDigit = [] := by
        have happ := List.takeWhile_append_dropWhile (p := Char.isDigit) (l := cs)
        rw [hwhole] at happ
        exact List.append_right_eq_self.1 happ
      rw [(h hend).takeWhile_isDigit, List.append_nil, hwhole]
    · rfl
  · show (cs ++ r).dropWhile Char.isDigit = cs.dropWhile Char.isDigit ++ r
    rw [List.dropWhile_append]
    split
    · rename_i hend
      rw [List.isEmpty_iff.1 hend, (h (List.isEmpty_iff.1 hend)).dropWhile_isDigit]
      rfl
    · rfl

theorem length_digitRun_le (cs : List Char) : (digitRun cs).2.length ≤ cs.length :=
  (List.dropWhile_suffix Char.isDigit).length_le

theorem length_digitRun_lt {cs : List Char} (h : (digitRun cs).1 ≠ []) :
    (digitRun cs).2.length < cs.length := by
  have hsum := congrArg List.length (List.takeWhile_append_dropWhile (p := Char.isDigit) (l := cs))
  rw [List.length_append] at hsum
  have hpos : 0 < (cs.takeWhile Char.isDigit).length := List.length_pos_iff.2 h
  show (cs.dropWhile Char.isDigit).length < cs.length
  omega

theorem wholePart_of_ne {cs : List Char} (h : cs.head? ≠ some '0') :
    wholePart cs =
      if (digitRun cs).1.isEmpty then none else some ((digitRun cs).1, (digitRun cs).2) := by
  unfold wholePart
  split
  · exact absurd rfl h
  · rfl

theorem length_wholePart_lt {cs ds rest : List Char} (h : wholePart cs = some (ds, rest)) :
    rest.length < cs.length := by
  by_cases hzero : cs.head? = some '0'
  · obtain ⟨tail, rfl⟩ := List.head?_eq_some_iff.1 hzero
    cases h
    exact Nat.lt_succ_self _
  · rw [wholePart_of_ne hzero] at h
    split at h
    · cases h
    · rename_i hne
      cases h
      exact length_digitRun_lt fun hnil => hne (List.isEmpty_iff.2 hnil)

theorem steady_wholePart : Steady wholePart := by
  intro cs ds rest h
  refine ⟨Nat.le_of_lt (length_wholePart_lt h), fun r hr => ?_⟩
  by_cases hzero : cs.head? = some '0'
  · obtain ⟨tail, rfl⟩ := List.head?_eq_some_iff.1 hzero
    cases h
    rfl
  · have hlt := length_wholePart_lt h
    have hhead : (cs ++ r).head? = cs.head? := by
      cases cs with
      | nil => cases hlt
      | cons c cs => rfl
    rw [wholePart_of_ne hzero] at h
    rw [wholePart_of_ne (hhead ▸ hzero)]
    split at h
    · cases h
    · rename_i hne
      cases h
      rw [digitRun_append hr, if_neg hne]

theorem fractionPart_point (cs : List Char) :
    fractionPart ('.' :: cs) =
      if (digitRun cs).1.isEmpty then none else some (some (digitRun cs).1, (digitRun cs).2) := rfl

theorem fractionPart_of_ne {cs : List Char} (h : cs.head? ≠ some '.') :
    fractionPart cs = some (none, cs) := by
  unfold fractionPart
  split
  · exact absurd rfl h
  · rfl

theorem steady_fractionPart : Steady fractionPart := by
  intro cs f rest h
  by_cases hpoint : cs.head? = some '.'
  · obtain ⟨tail, rfl⟩ := List.head?_eq_some_iff.1 hpoint
    rw [fractionPart_point] at h
    split at h
    · cases h
    · rename_i hne
      cases h
      refine ⟨Nat.le_trans (length_digitRun_le tail) (Nat.le_succ _), fun r hr => ?_⟩
      rw [List.cons_append, fractionPart_point, digitRun_append hr, if_neg hne]
  · rw [fractionPart_of_ne hpoint] at h
    cases h
    refine ⟨Nat.le_refl _, fun r hr => fractionPart_of_ne ?_⟩
    cases cs with
    | nil => exact fun hdot => (hr rfl '.' hdot).2.1 rfl
    | cons c cs => exact hpoint

/-- The sign of an exponent and what comes after it. -/
def exponentSign : List Char → Bool × List Char
  | '-' :: cs => (true, cs)
  | '+' :: cs => (false, cs)
  | cs => (false, cs)

theorem length_exponentSign_le (cs : List Char) : (exponentSign cs).2.length ≤ cs.length := by
  unfold exponentSign
  split
  · exact Nat.le_succ _
  · exact Nat.le_succ _
  · exact Nat.le_refl _

theorem exponentSign_append {cs r : List Char} (h : cs ≠ []) :
    exponentSign (cs ++ r) = ((exponentSign cs).1, (exponentSign cs).2 ++ r) := by
  cases cs with
  | nil => exact absurd rfl h
  | cons c cs =>
      by_cases hminus : c = '-'
      · subst hminus
        rfl
      · by_cases hplus : c = '+'
        · subst hplus
          rfl
        · have hnone (ds : List Char) : exponentSign (c :: ds) = (false, c :: ds) := by
            unfold exponentSign
            split
            · rename_i he
              exact absurd (List.cons.inj he).1 hminus
            · rename_i he
              exact absurd (List.cons.inj he).1 hplus
            · rfl
          rw [List.cons_append, hnone, hnone]
          rfl

theorem exponentPart_mark {c : Char} (h : c = 'e' ∨ c = 'E') (cs : List Char) :
    exponentPart (c :: cs) =
      if (digitRun (exponentSign cs).2).1.isEmpty then none
      else
        let n : Int := Nat.ofDigitChars 10 (digitRun (exponentSign cs).2).1 0
        some (some (if (exponentSign cs).1 then -n else n), (digitRun (exponentSign cs).2).2) :=
  if_pos h

theorem exponentPart_of_ne {cs : List Char} (h : ∀ c ∈ cs.head?, ¬ (c = 'e' ∨ c = 'E')) :
    exponentPart cs = some (none, cs) := by
  cases cs with
  | nil => rfl
  | cons c cs => exact if_neg (h c rfl)

theorem steady_exponentPart : Steady exponentPart := by
  intro cs x rest h
  by_cases hmark : ∃ c ∈ cs.head?, c = 'e' ∨ c = 'E'
  · obtain ⟨c, hc, he⟩ := hmark
    obtain ⟨tail, rfl⟩ := List.head?_eq_some_iff.1 hc
    rw [exponentPart_mark he] at h
    split at h
    · cases h
    · rename_i hne
      have htail : tail ≠ [] := by
        rintro rfl
        exact hne rfl
      cases h
      constructor
      · have hdigits := length_digitRun_le (exponentSign tail).2
        have hsign := length_exponentSign_le tail
        rw [List.length_cons]
        omega
      · intro r hr
        rw [List.cons_append, exponentPart_mark he, exponentSign_append htail, digitRun_append hr,
          if_neg hne]
  · have hnone : ∀ c ∈ cs.head?, ¬ (c = 'e' ∨ c = 'E') := fun c hc he => hmark ⟨c, hc, he⟩
    rw [exponentPart_of_ne hnone] at h
    cases h
    refine ⟨Nat.le_refl _, fun r hr => exponentPart_of_ne ?_⟩
    cases cs with
    | nil =>
        intro c hc he
        obtain ⟨-, -, hlower, hupper⟩ := hr rfl c hc
        exact he.elim hlower hupper
    | cons c cs => exact hnone

/-- A number after its sign. -/
def unsigned? (negative : Bool) (cs : List Char) : Option (Option Json × List Char) := do
  let (whole, cs) ← wholePart cs
  let (fraction, cs) ← fractionPart cs
  let (exponent, cs) ← exponentPart cs
  some (numberValue negative whole fraction exponent, cs)

theorem number?_of_ne {cs : List Char} (h : cs.head? ≠ some '-') :
    number? cs = unsigned? false cs := by
  unfold number?
  split
  rename_i negative ds hsign
  split at hsign
  · exact absurd rfl h
  · cases hsign
    rfl

/-- The parts of a number that was read. -/
theorem unsigned?_eq_some {negative : Bool} {cs rest : List Char} {v : Option Json} :
    unsigned? negative cs = some (v, rest) ↔
      ∃ whole cs₁ fraction cs₂ exponent, wholePart cs = some (whole, cs₁) ∧
        fractionPart cs₁ = some (fraction, cs₂) ∧ exponentPart cs₂ = some (exponent, rest) ∧
          numberValue negative whole fraction exponent = v := by
  simp only [unsigned?, Option.bind_eq_bind, Option.bind_eq_some_iff, Prod.exists,
    Option.some.injEq, Prod.mk.injEq]
  constructor
  · rintro ⟨whole, cs₁, hwhole, fraction, cs₂, hfraction, exponent, cs₃, hexponent, hv, rfl⟩
    exact ⟨whole, cs₁, fraction, cs₂, exponent, hwhole, hfraction, hexponent, hv⟩
  · rintro ⟨whole, cs₁, fraction, cs₂, exponent, hwhole, hfraction, hexponent, hv⟩
    exact ⟨whole, cs₁, hwhole, fraction, cs₂, hfraction, exponent, rest, hexponent, hv, rfl⟩

theorem length_unsigned?_lt {negative : Bool} {cs rest : List Char} {v : Option Json}
    (h : unsigned? negative cs = some (v, rest)) : rest.length < cs.length := by
  obtain ⟨whole, cs₁, fraction, cs₂, exponent, hwhole, hfraction, hexponent, -⟩ :=
    unsigned?_eq_some.1 h
  have h1 := length_wholePart_lt hwhole
  have h2 := (steady_fractionPart hfraction).1
  have h3 := (steady_exponentPart hexponent).1
  omega

theorem steady_unsigned? (negative : Bool) : Steady (unsigned? negative) := by
  intro cs v rest h
  refine ⟨Nat.le_of_lt (length_unsigned?_lt h), fun r hr => ?_⟩
  obtain ⟨whole, cs₁, fraction, cs₂, exponent, hwhole, hfraction, hexponent, hv⟩ :=
    unsigned?_eq_some.1 h
  have h2 := (steady_fractionPart hfraction).1
  have h3 := (steady_exponentPart hexponent).1
  -- a part that reaches to the end leaves nothing for the parts after it
  have hnil {ds : List Char} (hle : rest.length ≤ ds.length) (hds : ds = []) : rest = [] := by
    rw [hds] at hle
    exact List.length_eq_zero_iff.1 (Nat.le_zero.1 hle)
  refine unsigned?_eq_some.2 ⟨whole, cs₁ ++ r, fraction, cs₂ ++ r, exponent, ?_, ?_, ?_, hv⟩
  · exact (steady_wholePart hwhole).2 r fun hds => hr (hnil (Nat.le_trans h3 h2) hds)
  · exact (steady_fractionPart hfraction).2 r fun hds => hr (hnil h3 hds)
  · exact (steady_exponentPart hexponent).2 r hr

/-- A number begins with a digit or a minus sign. -/
def Begins (c : Char) : Prop := c.isDigit = true ∨ c = '-'

theorem begins_of_unsigned? {negative : Bool} {cs rest : List Char} {v : Option Json}
    (h : unsigned? negative cs = some (v, rest)) : ∃ c tail, cs = c :: tail ∧ c.isDigit = true := by
  obtain ⟨whole, cs₁, fraction, cs₂, exponent, hwhole, -⟩ := unsigned?_eq_some.1 h
  cases cs with
  | nil => cases length_unsigned?_lt h
  | cons c tail =>
      refine ⟨c, tail, rfl, ?_⟩
      by_cases hzero : c = '0'
      · rw [hzero]
        decide
      · rw [wholePart_of_ne (show (c :: tail).head? ≠ some '0' from
          fun he => hzero (Option.some.inj he))] at hwhole
        unfold digitRun at hwhole
        cases hdigit : c.isDigit with
        | true => rfl
        | false =>
            rw [List.takeWhile_cons, hdigit] at hwhole
            cases hwhole

theorem number?_cases {cs rest : List Char} {v : Option Json}
    (h : number? cs = some (v, rest)) :
    (∃ tail, cs = '-' :: tail ∧ unsigned? true tail = some (v, rest)) ∨
      cs.head? ≠ some '-' ∧ unsigned? false cs = some (v, rest) := by
  by_cases hminus : cs.head? = some '-'
  · obtain ⟨tail, rfl⟩ := List.head?_eq_some_iff.1 hminus
    exact .inl ⟨tail, rfl, h⟩
  · exact .inr ⟨hminus, number?_of_ne hminus ▸ h⟩

theorem begins_of_number? {cs rest : List Char} {v : Option Json}
    (h : number? cs = some (v, rest)) : ∃ c tail, cs = c :: tail ∧ Begins c := by
  rcases number?_cases h with ⟨tail, rfl, -⟩ | ⟨-, hread⟩
  · exact ⟨'-', tail, rfl, .inr rfl⟩
  · obtain ⟨c, tail, rfl, hc⟩ := begins_of_unsigned? hread
    exact ⟨c, tail, rfl, .inl hc⟩

theorem length_number?_lt {cs rest : List Char} {v : Option Json}
    (h : number? cs = some (v, rest)) : rest.length < cs.length := by
  rcases number?_cases h with ⟨tail, rfl, hread⟩ | ⟨-, hread⟩
  · exact Nat.lt_succ_of_lt (length_unsigned?_lt hread)
  · exact length_unsigned?_lt hread

theorem steady_number? : Steady number? := by
  intro cs v rest h
  refine ⟨Nat.le_of_lt (length_number?_lt h), fun r hr => ?_⟩
  rcases number?_cases h with ⟨tail, rfl, hread⟩ | ⟨hminus, hread⟩
  · exact (steady_unsigned? true hread).2 r hr
  · obtain ⟨c, tail, rfl, -⟩ := begins_of_unsigned? hread
    rw [number?_of_ne (show (c :: tail ++ r).head? ≠ some '-' from hminus)]
    exact (steady_unsigned? false hread).2 r hr

/-- The value of a number that was read is an integer or a fraction. -/
theorem number?_value {cs rest : List Char} {v : Json} (h : number? cs = some (some v, rest)) :
    (∃ n, v = .int n) ∨ ∃ x, v = .float x := by
  have hvalue : ∃ negative whole fraction exponent,
      numberValue negative whole fraction exponent = some v := by
    rcases number?_cases h with ⟨tail, -, hread⟩ | ⟨-, hread⟩
    all_goals
      obtain ⟨whole, -, fraction, -, exponent, -, -, -, hv⟩ := unsigned?_eq_some.1 hread
      exact ⟨_, whole, fraction, exponent, hv⟩
  obtain ⟨negative, whole, fraction, exponent, hv⟩ := hvalue
  unfold numberValue at hv
  dsimp only at hv
  generalize (if negative = true then _ else _ : Int) = n at hv
  generalize Binary64.ofDecimal _ _ _ = x at hv
  split at hv
  · exact .inl ⟨n, (Option.some.inj hv).symm⟩
  · split at hv
    · exact .inr ⟨x, (Option.some.inj hv).symm⟩
    · cases hv

/-! ## Strings -/

/-- A string whose text ends holds all of an escape of four digits that it begins with. -/
theorem unit_of_append {w r rest : List Char} {p : Option (List Char) × List Char}
    {e f g h : Char} (hread : stringBody w = some p)
    (happ : w ++ r = '\\' :: 'u' :: e :: f :: g :: h :: rest) :
    ∃ w', w = '\\' :: 'u' :: e :: f :: g :: h :: w' := by
  -- shorter texts break off inside the escape
  rcases w with _ | ⟨c₁, _ | ⟨c₂, _ | ⟨c₃, _ | ⟨c₄, _ | ⟨c₅, _ | ⟨c₆, w⟩⟩⟩⟩⟩⟩
  all_goals simp only [List.nil_append, List.cons_append, List.cons.injEq] at happ
  · simp [stringBody] at hread
  · obtain ⟨rfl, -⟩ := happ
    simp [stringBody] at hread
  · obtain ⟨rfl, rfl, -⟩ := happ
    simp [stringBody, letterEscape?] at hread
  · obtain ⟨rfl, rfl, -⟩ := happ
    simp [stringBody, letterEscape?] at hread
  · obtain ⟨rfl, rfl, -⟩ := happ
    simp [stringBody, letterEscape?] at hread
  · obtain ⟨rfl, rfl, -⟩ := happ
    simp [stringBody, letterEscape?] at hread
  · obtain ⟨rfl, rfl, rfl, rfl, rfl, rfl, -⟩ := happ
    exact ⟨w, rfl⟩

/-- A character that needs no escape stands for itself. -/
theorem stringBody_plain {c : Char} (hquote : c ≠ '"') (hplain : ¬ (c.toNat < 32 ∨ c = '\\'))
    (r : List Char) :
    stringBody (c :: r) = (stringBody r).map fun p => (p.1.map (c :: ·), p.2) := by
  have hslash : c ≠ '\\' := fun hc => hplain (.inr hc)
  rw [stringBody.eq_6 c r hquote (fun _ _ _ _ _ _ _ _ _ hc _ => hslash hc)
    (fun _ _ _ _ _ hc _ => hslash hc) (fun _ _ hc _ => hslash hc), if_neg hplain]

/-- An escape of one letter stands for the character that it names. -/
theorem stringBody_letter {c x : Char} (h : letterEscape? c = some x) (r : List Char) :
    stringBody ('\\' :: c :: r) = (stringBody r).map fun p => (p.1.map (x :: ·), p.2) := by
  have hletter : c ≠ 'u' := by
    rintro rfl
    cases h
  rw [stringBody.eq_5 c r (fun _ _ _ _ _ _ _ _ _ hc _ => hletter hc)
    (fun _ _ _ _ _ hc _ => hletter hc), h]

/-- Two escapes of four digits that name a pair of units stand for one character. -/
theorem stringBody_pair {a b c d e f g h : Char} {u v : Nat} (hu : unit? a b c d = some u)
    (hv : unit? e f g h = some v) (hpair : (isLeading u && isTrailing v) = true) (r : List Char) :
    stringBody ('\\' :: 'u' :: a :: b :: c :: d :: '\\' :: 'u' :: e :: f :: g :: h :: r) =
      (stringBody r).map fun p =>
        (p.1.map (Char.ofNat (0x10000 + (u - 0xD800) * 0x400 + (v - 0xDC00)) :: ·), p.2) := by
  simp only [stringBody.eq_3, hu, hv, if_pos hpair]

/-- The digits of an escape that was read name a unit. -/
theorem exists_unit_of_stringBody {e f g h : Char} {rest : List Char}
    {p : Option (List Char) × List Char}
    (hread : stringBody ('\\' :: 'u' :: e :: f :: g :: h :: rest) = some p) :
    ∃ v, unit? e f g h = some v := by
  cases hunit : unit? e f g h with
  | some v => exact ⟨v, rfl⟩
  | none =>
      by_cases hpair : ∃ i j k l rest', rest = '\\' :: 'u' :: i :: j :: k :: l :: rest'
      · obtain ⟨i, j, k, l, rest', rfl⟩ := hpair
        simp [stringBody.eq_3, hunit] at hread
      · rw [stringBody.eq_4 e f g h rest fun i j k l rest' he => hpair ⟨i, j, k, l, rest', he⟩,
          hunit] at hread
        cases hread

/-- An escape of four digits that name a character by themselves stands for this character. -/
theorem stringBody_unit {a b c d x : Char} {u : Nat} {r : List Char}
    {p : Option (List Char) × List Char} (hu : unit? a b c d = some u) (hx : single? u = some x)
    (hread : stringBody r = some p) :
    stringBody ('\\' :: 'u' :: a :: b :: c :: d :: r) = some (p.1.map (x :: ·), p.2) := by
  obtain ⟨t, tail⟩ := p
  by_cases hpair : ∃ e f g h rest, r = '\\' :: 'u' :: e :: f :: g :: h :: rest
  · obtain ⟨e, f, g, h, rest, rfl⟩ := hpair
    -- the escape that follows names a unit, for the string is read to its end
    obtain ⟨v, hv⟩ := exists_unit_of_stringBody hread
    -- a unit that is a character by itself leads no pair
    have hlead : ¬ (isLeading u && isTrailing v) = true := by
      intro hboth
      rw [Bool.and_eq_true] at hboth
      rw [single?, hboth.1, Bool.true_or, if_pos rfl] at hx
      cases hx
    rw [stringBody.eq_3, hu, hv]
    dsimp only
    rw [if_neg hlead, hread, Option.map_some, hx]
    cases t <;> rfl
  · rw [stringBody.eq_4 a b c d r fun e f g h rest he => hpair ⟨e, f, g, h, rest, he⟩, hu]
    dsimp only
    rw [hread, Option.map_some, hx]
    cases t <;> rfl

/-- A control character is named by the digits of its escape. -/
theorem unit?_control {n : Nat} (h : n < 32) :
    unit? '0' '0' (hexDigit (n / 16)) (hexDigit (n % 16)) = some n ∧
      single? n = some (Char.ofNat n) := by
  revert n
  decide

/-- A character is read from what was written for it. -/
theorem stringBody_escape (c : Char) {r : List Char} {p : Option (List Char) × List Char}
    (hread : stringBody r = some p) :
    stringBody (escape c ++ r) = some (p.1.map (c :: ·), p.2) := by
  have hcode {n : Nat} (h : c.toNat = n) : Char.ofNat n = c := by rw [← h, Char.ofNat_toNat]
  have hletter {l x : Char} (hl : letterEscape? l = some x) (hx : x = c) :
      stringBody (['\\', l] ++ r) = some (p.1.map (c :: ·), p.2) := by
    subst hx
    exact (stringBody_letter hl r).trans (by rw [hread]; rfl)
  unfold escape
  split
  · rename_i h
    exact hletter (l := '"') rfl h.symm
  split
  · rename_i h
    exact hletter (l := '\\') rfl h.symm
  split
  · rename_i h
    exact hletter (l := 'b') rfl (hcode h)
  split
  · rename_i h
    exact hletter (l := 't') rfl (hcode h)
  split
  · rename_i h
    exact hletter (l := 'n') rfl (hcode h)
  split
  · rename_i h
    exact hletter (l := 'f') rfl (hcode h)
  split
  · rename_i h
    exact hletter (l := 'r') rfl (hcode h)
  split
  · rename_i h
    obtain ⟨hu, hx⟩ := unit?_control h
    rw [hcode rfl] at hx
    exact stringBody_unit hu hx hread
  · -- every other character stands for itself
    rename_i hquote hslash _ _ _ _ _ hlow
    refine (stringBody_plain hquote (fun h => h.elim hlow hslash) r).trans ?_
    rw [hread]
    rfl

/-- A text is read from what was written for it. -/
theorem stringBody_written (cs rest : List Char) :
    stringBody (cs.flatMap escape ++ '"' :: rest) = some (some cs, rest) := by
  induction cs with
  | nil => rfl
  | cons c cs ih =>
      rw [List.flatMap_cons, List.append_assoc]
      exact stringBody_escape c ih

/-- A string is read from a word at the front of a text, whatever comes after this word. -/
def IsWord (cs : List Char) (x : Option (List Char)) (rest : List Char) : Prop :=
  ∃ w, w ≠ [] ∧ cs = w ++ rest ∧ ∀ r, stringBody (w ++ r) = some (x, r)

/-- Characters that add something to what is read after them, and look at nothing of it, make the
word longer. -/
theorem isWord_of_front (front : List Char) {tail rest : List Char} {x : Option (List Char)}
    {add : Option (List Char) → Option (List Char)}
    (hfront : ∀ tail, stringBody (front ++ tail) =
      (stringBody tail).map fun p => (add p.1, p.2))
    (htail : ∀ {y}, stringBody tail = some (y, rest) → IsWord tail y rest)
    (hread : stringBody (front ++ tail) = some (x, rest)) : IsWord (front ++ tail) x rest := by
  rw [hfront, Option.map_eq_some_iff] at hread
  obtain ⟨⟨y, rest'⟩, hrest, heq⟩ := hread
  cases heq
  obtain ⟨w, hne, rfl, hw⟩ := htail hrest
  refine ⟨front ++ w, List.append_ne_nil_of_right_ne_nil _ hne, (List.append_assoc ..).symm,
    fun r => ?_⟩
  rw [List.append_assoc, hfront, hw]
  rfl

/-- What was read of a string is a word at the front, whatever comes after it. -/
theorem stringBody_word {cs rest : List Char} {x : Option (List Char)}
    (hread : stringBody cs = some (x, rest)) : IsWord cs x rest := by
  -- along the reading; only an escape of four digits looks ahead, and what it sees is in the word
  induction cs using stringBody.induct generalizing x with
  | case1 => simp [stringBody] at hread
  | case2 rest' =>
      simp only [stringBody, Option.some.injEq, Prod.mk.injEq] at hread
      obtain ⟨rfl, rfl⟩ := hread
      exact ⟨['"'], List.cons_ne_nil _ _, rfl, fun r => rfl⟩
  | case3 a b c d e f g h tail u v hv hu hpair ih =>
      exact isWord_of_front ['\\', 'u', a, b, c, d, '\\', 'u', e, f, g, h]
        (stringBody_pair hu hv hpair) ih hread
  | case4 a b c d e f g h tail u v hv hu hpair ih =>
      simp only [stringBody.eq_3, hu, hv, if_neg hpair, Option.map_eq_some_iff] at hread
      obtain ⟨⟨y, rest'⟩, hrest, heq⟩ := hread
      cases heq
      obtain ⟨w, -, happ, hw⟩ := ih hrest
      obtain ⟨w', rfl⟩ := unit_of_append (w.append_nil ▸ hw []) happ.symm
      refine ⟨'\\' :: 'u' :: a :: b :: c :: d :: '\\' :: 'u' :: e :: f :: g :: h :: w',
        List.cons_ne_nil _ _, ?_, fun r => ?_⟩
      · simp only [List.cons_append, List.cons.injEq, true_and] at happ ⊢
        exact happ
      · have htail := hw r
        simp only [List.cons_append] at htail ⊢
        simp only [stringBody.eq_3, hu, hv, if_neg hpair, htail, Option.map_some]
  | case5 a b c d e f g h tail hnone =>
      simp only [stringBody.eq_3] at hread
      cases hread
  | case6 a b c d tail hsingle u hu ih =>
      rw [stringBody.eq_4 a b c d tail hsingle, hu] at hread
      simp only [Option.map_eq_some_iff] at hread
      obtain ⟨⟨y, rest'⟩, hrest, heq⟩ := hread
      cases heq
      obtain ⟨w, -, rfl, hw⟩ := ih hrest
      refine ⟨'\\' :: 'u' :: a :: b :: c :: d :: w, List.cons_ne_nil _ _, rfl, fun r => ?_⟩
      -- no second escape comes in from what follows the string
      have halone : ∀ e f g h rest, w ++ r = '\\' :: 'u' :: e :: f :: g :: h :: rest → False := by
        intro e f g h rest happ
        obtain ⟨w', rfl⟩ := unit_of_append (w.append_nil ▸ hw []) happ
        exact hsingle e f g h (w' ++ rest') rfl
      simp only [List.cons_append]
      rw [stringBody.eq_4 a b c d (w ++ r) halone, hu, hw]
      rfl
  | case7 a b c d tail hsingle hu =>
      rw [stringBody.eq_4 a b c d tail hsingle, hu] at hread
      cases hread
  | case8 c tail hpair hsingle y hy ih =>
      exact isWord_of_front ['\\', c] (stringBody_letter hy) ih hread
  | case9 c tail hpair hsingle hnone =>
      rw [stringBody.eq_5 c tail hpair hsingle, hnone] at hread
      cases hread
  | case10 c tail hquote hpair hsingle hletter hrefused =>
      rw [stringBody.eq_6 c tail hquote hpair hsingle hletter, if_pos hrefused] at hread
      cases hread
  | case11 c tail hquote hpair hsingle hletter hplain ih =>
      exact isWord_of_front [c] (stringBody_plain hquote hplain) ih hread

/-! ## Tokens -/

/-- What begins as a number does is a number or nothing. -/
theorem first?_of_begins {c : Char} (h : Begins c) (cs : List Char) :
    first? (c :: cs) = (number? (c :: cs)).map fun p => (.number p.1, p.2) := by
  unfold first?
  split
  case h_11 => rfl
  all_goals
    rename_i he
    cases he
    exact absurd h (by unfold Begins; decide)

theorem first?_quote (cs : List Char) :
    first? ('"' :: cs) = (stringBody cs).map fun p => (.string (p.1.map String.ofList), p.2) := rfl

/-- A quoted string is the token of this string. -/
theorem first?_quoted (s : String) (rest : List Char) :
    first? (quoted s ++ rest) = some (.string (some s), rest) := by
  have hbody := stringBody_written s.toList rest
  unfold quoted
  rw [List.cons_append, List.cons_append, List.append_assoc, first?_quote, List.singleton_append,
    hbody, Option.map_some, Option.map_some, String.ofList_toList]

/-- A token as texts have it: the value of a number is an integer or a fraction. -/
def IsWritten : Token → Prop
  | .number (some v) => (∃ n, v = .int n) ∨ ∃ x, v = .float x
  | _ => True

/-- A token is a word at the front of the text. -/
structure Fronts (cs : List Char) (t : Token) (rest : List Char) : Prop where
  shorter : rest.length < cs.length
  goesOn : ∀ r, (rest = [] → Clear r) → first? (cs ++ r) = some (t, rest ++ r)
  written : t.IsWritten

theorem fronts_of_first? {cs rest : List Char} {t : Token} (h : first? cs = some (t, rest)) :
    Fronts cs t rest := by
  unfold first? at h
  split at h
  case h_10 tail =>
    obtain ⟨⟨x, rest'⟩, hread, heq⟩ := Option.map_eq_some_iff.1 h
    cases heq
    obtain ⟨w, hne, rfl, hw⟩ := stringBody_word hread
    refine ⟨?_, fun r _ => ?_, True.intro⟩
    · show rest'.length < _
      rw [List.length_cons, List.length_append]
      omega
    · rw [List.cons_append, first?_quote, List.append_assoc, hw]
      rfl
  case h_11 =>
    obtain ⟨⟨v, rest'⟩, hread, heq⟩ := Option.map_eq_some_iff.1 h
    cases heq
    obtain ⟨c, tail, rfl, hc⟩ := begins_of_number? hread
    refine ⟨length_number?_lt hread, fun r hr => ?_, ?_⟩
    · have hread' := (steady_number? hread).2 r hr
      rw [List.cons_append] at hread' ⊢
      rw [first?_of_begins hc, hread']
      rfl
    · cases v with
      | none => exact True.intro
      | some v => exact number?_value hread
  all_goals
    cases h
    exact ⟨by simp only [List.length_cons]; omega, fun r _ => rfl, True.intro⟩

/-! ## Texts -/

theorem length_dropGap_le (cs : List Char) : (cs.dropWhile isGap).length ≤ cs.length :=
  (List.dropWhile_suffix isGap).length_le

/-- A text is taken apart into tokens. -/
inductive Reads : List Char → List Token → Prop where
  | nil {cs : List Char} (hgap : cs.dropWhile isGap = []) : Reads cs []
  | cons {cs front rest : List Char} {t : Token} {ts : List Token}
      (hgap : cs.dropWhile isGap = front) (hfirst : first? front = some (t, rest))
      (hrest : Reads rest ts) : Reads cs (t :: ts)

/-- With a step for every character the tokens of a text are found. -/
theorem scan_eq_some {n : Nat} : ∀ {cs : List Char} {ts : List Token}, cs.length ≤ n →
    (scan n cs = some ts ↔ Reads cs ts) := by
  induction n with
  | zero =>
      intro cs ts hle
      obtain rfl := List.length_eq_zero_iff.1 (Nat.le_zero.1 hle)
      constructor
      · intro h
        cases h
        exact .nil rfl
      · intro h
        cases h with
        | nil => rfl
        | cons hgap hfirst =>
            cases hgap
            cases hfirst
  | succ n ih =>
      intro cs ts hle
      rw [scan]
      split
      · rename_i hgap
        constructor
        · intro h
          cases h
          exact .nil hgap
        · intro h
          cases h with
          | nil => rfl
          | cons hgap' hfirst =>
              rw [hgap] at hgap'
              cases hgap'
              cases hfirst
      · rename_i c ds hgap
        -- a token takes at least one character, so the steps that are left are enough
        have hlen := hgap ▸ length_dropGap_le cs
        split
        · rename_i t rest hfirst
          have hrest : rest.length ≤ n := by
            have hshorter := (fronts_of_first? hfirst).shorter
            omega
          rw [Option.map_eq_some_iff]
          constructor
          · rintro ⟨us, hus, rfl⟩
            exact .cons hgap hfirst ((ih hrest).1 hus)
          · intro h
            cases h with
            | nil hgap' => cases hgap.symm.trans hgap'
            | cons hgap' hfirst' hreads =>
                obtain rfl := hgap.symm.trans hgap'
                cases hfirst.symm.trans hfirst'
                exact ⟨_, (ih hrest).2 hreads, rfl⟩
        · rename_i hnone
          refine iff_of_false (fun h => by cases h) fun h => ?_
          cases h with
          | nil hgap' => cases hgap.symm.trans hgap'
          | cons hgap' hfirst' =>
              obtain rfl := hgap.symm.trans hgap'
              cases hnone.symm.trans hfirst'

theorem ofChars?_eq_some {cs : List Char} {ts : List Token} :
    ofChars? cs = some ts ↔ Reads cs ts := scan_eq_some (Nat.le_refl _)

theorem Reads.written {cs : List Char} {ts : List Token} (h : Reads cs ts) :
    ∀ t ∈ ts, t.IsWritten := by
  induction h with
  | nil => exact fun t ht => absurd ht List.not_mem_nil
  | cons hgap hfirst hrest ih =>
      exact List.forall_mem_cons.2 ⟨(fronts_of_first? hfirst).written, ih⟩

theorem dropGap_append {g : List Char} (hg : ∀ c ∈ g, isGap c = true) (cs : List Char) :
    (g ++ cs).dropWhile isGap = cs.dropWhile isGap := by
  rw [List.dropWhile_append, List.dropWhile_eq_nil_iff.2 hg]
  rfl

/-- Blanks before a text do not count. -/
theorem Reads.gap {g cs : List Char} {ts : List Token} (hg : ∀ c ∈ g, isGap c = true)
    (h : Reads cs ts) : Reads (g ++ cs) ts := by
  cases h with
  | nil hgap => exact .nil ((dropGap_append hg cs).trans hgap)
  | cons hgap hfirst hrest => exact .cons ((dropGap_append hg cs).trans hgap) hfirst hrest

theorem clear_of_gap {c : Char} (h : isGap c = true) (cs : List Char) : Clear (c :: cs) := by
  intro d hd
  obtain rfl := Option.some.inj hd
  simp only [isGap, Bool.or_eq_true, decide_eq_true_eq] at h
  rcases h with ((h | h) | h) | h <;> subst h <;> decide

/-- Blanks between two texts keep their tokens apart. -/
theorem Reads.append_gap {as g bs : List Char} {ts us : List Token} (hg : ∀ c ∈ g, isGap c = true)
    (hne : g ≠ []) (has : Reads as ts) (hbs : Reads bs us) :
    Reads (as ++ (g ++ bs)) (ts ++ us) := by
  induction has with
  | nil hgap => exact .gap (List.dropWhile_eq_nil_iff.1 hgap) (.gap hg hbs)
  | @cons cs front rest t ts hgap hfirst hrest ih =>
      obtain ⟨c, g', rfl⟩ := List.exists_cons_of_ne_nil hne
      have hdrop : (cs ++ (c :: g' ++ bs)).dropWhile isGap = front ++ (c :: g' ++ bs) := by
        -- a token has been found, so blanks alone are not what is left
        rw [List.dropWhile_append, hgap, if_neg]
        rw [List.isEmpty_iff]
        rintro rfl
        cases hfirst
      refine .cons hdrop ((fronts_of_first? hfirst).goesOn _ fun _ => ?_) ih
      exact clear_of_gap (hg c List.mem_cons_self) _

end Presence.Json.Token
