import Presence.Session

/-!
# Numbers in stored texts

Markers and alert ranges are stored as decimal texts. Main statements: the texts are read back
(`marker?_toString`, `cachedRange?_toString`), and different numbers have different texts
(`toString_inj`).
-/

set_option autoImplicit false

namespace Presence.Text

/-- The decimal text of an integer: the digits of its absolute value after a sign if it is
negative. -/
theorem toList_toString (n : Int) :
    (toString n).toList = if n < 0 then '-' :: Nat.toDigits 10 n.natAbs
      else Nat.toDigits 10 n.natAbs := by
  cases n with
  | ofNat m =>
      show (Nat.repr m).toList = _
      simp [Nat.repr, Int.natAbs]
  | negSucc m =>
      show ("-" ++ Nat.repr (m + 1)).toList = _
      simp [Nat.repr, String.toList_append, Int.natAbs, Int.negSucc_lt_zero]

theorem isDigit_ne_sign {c : Char} (h : c.isDigit = true) : c ≠ '-' ∧ c ≠ '+' := by
  constructor <;> rintro rfl <;> exact absurd h (by decide)

theorem signed?_toDigits (n : Nat) : signed? (Nat.toDigits 10 n) = some (n : Int) := by
  have hd := digits?_toDigits n
  cases hl : Nat.toDigits 10 n with
  | nil => exact absurd hl Nat.toDigits_ne_nil
  | cons c cs =>
      have hc : c.isDigit = true :=
        Nat.isDigit_of_mem_toDigits (by decide) (by decide) (hl ▸ List.mem_cons_self)
      obtain ⟨h1, h2⟩ := isDigit_ne_sign hc
      rw [hl] at hd
      unfold signed?
      split
      · rename_i heq; injection heq with heq; exact absurd heq h1
      · rename_i heq; injection heq with heq; exact absurd heq h2
      · rw [hd]; rfl

/-- Reading gives back the integer that was written. -/
theorem signed?_toString (n : Int) : signed? (toString n).toList = some n := by
  rw [toList_toString]
  split
  · simp only [signed?, digits?_toDigits]
    show some (-(n.natAbs : Int)) = some n
    rw [Option.some.injEq]
    omega
  · rw [signed?_toDigits, Option.some.injEq]
    omega

theorem toString_inj {m n : Int} : toString m = toString n ↔ m = n := by
  refine ⟨fun h => ?_, fun h => h ▸ rfl⟩
  have hm := signed?_toString m
  rw [h, signed?_toString] at hm
  exact (Option.some.inj hm).symm

theorem readSigned64?_toString {n : Int} (h : Signed64.Fits n) :
    readSigned64? (toString n) = some n := by
  obtain ⟨h1, h2⟩ := h
  rw [readSigned64?, readInt?, signed?_toString]
  simp [Option.filter, h1, h2]

theorem toNat_of_isDigit {c : Char} (h : c.isDigit = true) : 48 ≤ c.toNat ∧ c.toNat ≤ 57 := by
  simp only [Char.isDigit, Bool.and_eq_true, decide_eq_true_eq, ge_iff_le] at h
  exact ⟨h.1, h.2⟩

theorem isBlank_eq_false_of_isDigit {c : Char} (h : c.isDigit = true) : isBlank c = false := by
  have h' := toNat_of_isDigit h
  simp only [isBlank, blankRanges, List.any_cons, List.any_nil, Bool.or_false, Bool.or_eq_false_iff,
    Bool.and_eq_false_iff, decide_eq_false_iff_not]
  omega

theorem not_blank_of_mem_toString {n : Int} {c : Char} (h : c ∈ (toString n).toList) :
    isBlank c = false := by
  have hd : ∀ {k : Nat}, c ∈ Nat.toDigits 10 k → isBlank c = false := fun hc =>
    isBlank_eq_false_of_isDigit (Nat.isDigit_of_mem_toDigits (by decide) (by decide) hc)
  rw [toList_toString] at h
  split at h
  · rcases List.mem_cons.1 h with rfl | h
    · decide
    · exact hd h
  · exact hd h

theorem dropWhile_eq_self {p : Char → Bool} {cs : List Char} (h : ∀ c ∈ cs, p c = false) :
    cs.dropWhile p = cs := by
  cases cs with
  | nil => rfl
  | cons c cs => simp [h c List.mem_cons_self]

theorem trim_toString (n : Int) : trim (toString n) = toString n := by
  have h1 : (toString n).toList.dropWhile isBlank = (toString n).toList :=
    dropWhile_eq_self fun c hc => not_blank_of_mem_toString hc
  have h2 : (toString n).toList.reverse.dropWhile isBlank = (toString n).toList.reverse :=
    dropWhile_eq_self fun c hc => not_blank_of_mem_toString (List.mem_reverse.1 hc)
  rw [trim, trimmed, h1, h2, List.reverse_reverse, String.ofList_toList]

end Presence.Text

namespace Presence.Service

theorem marker?_toString (t : Instant) : marker? (toString t.millis) = some t := by
  have h : Signed64.Fits t.millis := by
    have := t.inRange
    simp only [Signed64.Fits, Signed64.least, Signed64.greatest]
    omega
  rw [marker?, Text.trim_toString, Text.readSigned64?_toString h, Option.bind_some,
    Instant.ofMillis?_millis]

theorem cachedRange?_toString {r : Int} (h : 0 < r) (hf : Signed64.Fits r) :
    cachedRange? (some (toString r)) = some r := by
  rw [cachedRange?, Option.bind_some, Text.trim_toString, Text.readSigned64?_toString hf]
  simp [Option.filter, h]

end Presence.Service
