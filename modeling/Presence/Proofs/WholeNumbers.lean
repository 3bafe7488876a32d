import Mathlib.Algebra.Order.Field.Power
import Mathlib.Data.List.TakeWhile
import Mathlib.Tactic.NormNum
import Mathlib.Tactic.Positivity
import Presence.Proofs.Decimal
import Presence.Text.Float

/-!
# Whole numbers in floating point

From `-2 ^ 53` to `2 ^ 53` every integer is a binary number of 64 bits. Main statements:
`ofInt_eq_finite` gives the number and its exact value, `truncate_ofInt` and `readFloat?_toString`
say that neither the way through a score nor the way through a text changes the integer, and
`plus_ofInt` and `less_ofInt` that sums and comparisons are those of the integers.
-/

set_option autoImplicit false

namespace Presence.Binary64

/-- An integer from `-2 ^ 53` to `2 ^ 53`. -/
def IsWhole (n : Int) : Prop := -9007199254740992 ≤ n ∧ n ≤ 9007199254740992

instance (n : Int) : Decidable (IsWhole n) := inferInstanceAs (Decidable (_ ∧ _))

/-- The exact value of a sign, a mantissa and an exponent. -/
def exact (negative : Bool) (m : Nat) (e : Int) : ℚ := (if negative then -(m : ℚ) else m) * 2 ^ e

/-- The number nearest to an exact value. -/
def nearest (q : ℚ) : Binary64 := ofRatio (decide (q < 0)) q.num.natAbs q.den

/-- The sum, rounded to the nearest number. Infinities of both signs have none. -/
def plus : Binary64 → Binary64 → Binary64
  | .finite s m e, .finite s' m' e' => nearest (exact s m e + exact s' m' e')
  | .infinite s, .infinite s' => if s = s' then .infinite s else .nan
  | .infinite s, .finite _ _ _ => .infinite s
  | .finite _ _ _, .infinite s => .infinite s
  | _, _ => .nan

/-- Whether a number is below another. What is no number is neither below nor above. -/
def less : Binary64 → Binary64 → Bool
  | .finite s m e, .finite s' m' e' => decide (exact s m e < exact s' m' e')
  | .infinite s, .infinite s' => s && !s'
  | .infinite s, .finite _ _ _ => s
  | .finite _ _ _, .infinite s => !s
  | _, _ => false

theorem nearestEven_one (n : Nat) : nearestEven n 1 = n := by
  simp [nearestEven, Nat.mod_one]

theorem floorLog2_one {n : Nat} (h : n ≠ 0) : floorLog2 n 1 = Nat.log2 n := by
  have hone : Nat.log2 1 = 0 := by decide
  have hle : 2 ^ Nat.log2 n ≤ n := Nat.log2_self_le h
  simp [floorLog2, hone, Nat.shiftLeft_eq, hle]

/-- Below `2 ^ 53` the mantissa is the integer moved to the left until it has 53 bits. -/
theorem ofRatio_of_lt (s : Bool) {n : Nat} (h0 : n ≠ 0) (h : n < 2 ^ 53) :
    ofRatio s n 1 =
      .finite s (n * 2 ^ (52 - Nat.log2 n)) ((Nat.log2 n : Int) - 52) := by
  have hlog : Nat.log2 n ≤ 52 := Nat.le_of_lt_succ ((Nat.log2_lt h0).2 h)
  have hmax : max (-1074 : Int) ((Nat.log2 n : Int) - 52) = (Nat.log2 n : Int) - 52 := by omega
  have hscaled : scaled n 1 ((Nat.log2 n : Int) - 52) = n * 2 ^ (52 - Nat.log2 n) := by
    rcases Nat.lt_or_eq_of_le hlog with hlt | heq
    · have hneg : ¬ (0 : Int) ≤ (Nat.log2 n : Int) - 52 := by omega
      have hto : (-((Nat.log2 n : Int) - 52)).toNat = 52 - Nat.log2 n := by omega
      rw [scaled, if_neg hneg, hto, nearestEven_one, Nat.shiftLeft_eq]
    · simp [scaled, heq, nearestEven_one]
  have hcarry : n * 2 ^ (52 - Nat.log2 n) ≠ 1 <<< 53 := by
    have hlt : n < 2 ^ (Nat.log2 n + 1) := Nat.lt_log2_self
    have hmul : n * 2 ^ (52 - Nat.log2 n) < 2 ^ (Nat.log2 n + 1) * 2 ^ (52 - Nat.log2 n) :=
      Nat.mul_lt_mul_of_pos_right hlt (by positivity)
    rw [← pow_add, show Nat.log2 n + 1 + (52 - Nat.log2 n) = 53 by omega] at hmul
    exact Nat.ne_of_lt hmul
  have hrange : ¬ (971 : Int) < (Nat.log2 n : Int) - 52 := by omega
  simp only [ofRatio, h0, Nat.one_ne_zero, or_self, if_false, floorLog2_one h0, hmax, hscaled,
    hcarry, hrange]

theorem ofRatio_top (s : Bool) : ofRatio s 9007199254740992 1 = .finite s (2 ^ 52) 1 := by
  have hlog : Nat.log2 9007199254740992 = 53 := by
    rw [show 9007199254740992 = 2 ^ 53 by norm_num, Nat.log2_two_pow]
  have hfloor : floorLog2 9007199254740992 1 = 53 := by
    rw [floorLog2_one (by decide), hlog]; rfl
  have hscaled : scaled 9007199254740992 1 1 = 2 ^ 52 := by decide
  simp [ofRatio, hfloor, hscaled]

/-- An integer up to `2 ^ 53` is a number with exactly its value. -/
theorem ofRatio_eq_finite (s : Bool) {n : Nat} (h : n ≤ 2 ^ 53) :
    ∃ m e, ofRatio s n 1 = .finite s m e ∧ magnitude m e = n ∧
      exact s m e = if s then -(n : ℚ) else n := by
  rcases Nat.eq_zero_or_pos n with rfl | hpos
  · exact ⟨0, -1074, rfl, by decide, by cases s <;> simp [exact]⟩
  have h0 : n ≠ 0 := Nat.ne_of_gt hpos
  rcases Nat.lt_or_eq_of_le h with hlt | rfl
  · have hlog : Nat.log2 n ≤ 52 := Nat.le_of_lt_succ ((Nat.log2_lt h0).2 hlt)
    refine ⟨_, _, ofRatio_of_lt s h0 hlt, ?_, ?_⟩
    · rcases Nat.lt_or_eq_of_le hlog with hlt | heq
      · have hneg : ¬ (0 : Int) ≤ (Nat.log2 n : Int) - 52 := by omega
        have hto : (-((Nat.log2 n : Int) - 52)).toNat = 52 - Nat.log2 n := by omega
        rw [magnitude, if_neg hneg, hto, Nat.shiftRight_eq_div_pow,
          Nat.mul_div_cancel _ (by positivity)]
      · simp [magnitude, heq]
    · have hpow : (2 : ℚ) ^ (52 - Nat.log2 n) * 2 ^ ((Nat.log2 n : Int) - 52) = 1 := by
        rw [← zpow_natCast, ← zpow_add₀ (by norm_num : (2 : ℚ) ≠ 0)]
        have : ((52 - Nat.log2 n : Nat) : Int) + ((Nat.log2 n : Int) - 52) = 0 := by omega
        rw [this, zpow_zero]
      cases s <;> simp [exact, mul_assoc, hpow]
  · refine ⟨2 ^ 52, 1, ofRatio_top s, by decide, ?_⟩
    cases s <;> norm_num [exact]

/-- The number of an integer up to `2 ^ 53` has exactly its value. -/
theorem ofInt_eq_finite {n : Int} (h : IsWhole n) :
    ∃ m e, ofInt n = .finite (decide (n < 0)) m e ∧ magnitude m e = n.natAbs ∧
      exact (decide (n < 0)) m e = n := by
  have hle : n.natAbs ≤ 2 ^ 53 := by
    obtain ⟨h1, h2⟩ := h
    omega
  obtain ⟨m, e, hof, hmag, hexact⟩ := ofRatio_eq_finite (decide (n < 0)) hle
  refine ⟨m, e, hof, hmag, hexact.trans ?_⟩
  rw [Nat.cast_natAbs]
  by_cases hn : n < 0
  · simp [hn, abs_of_neg hn]
  · simp [hn, abs_of_nonneg (Int.not_lt.1 hn)]

/-- The way through a floating point number changes no integer up to `2 ^ 53`. -/
theorem truncate_ofInt {n : Int} (h : IsWhole n) : truncate (ofInt n) = n := by
  obtain ⟨m, e, hof, hmag, -⟩ := ofInt_eq_finite h
  obtain ⟨h1, h2⟩ := h
  have hsigned : (if decide (n < 0) then -(magnitude m e : Int) else magnitude m e) = n := by
    rw [hmag]
    by_cases hn : n < 0
    · simp only [hn, decide_true, if_true]
      omega
    · simp only [hn, decide_false, Bool.false_eq_true, if_false]
      omega
  rw [hof, truncate, hsigned]
  simp only [Signed64.clamp, Signed64.least, Signed64.greatest]
  omega

theorem nearest_intCast (n : Int) : nearest n = ofInt n := by
  simp [nearest, ofInt]

/-- Integers are added exactly, up to the rounding of the sum. -/
theorem plus_ofInt {a b : Int} (ha : IsWhole a) (hb : IsWhole b) :
    plus (ofInt a) (ofInt b) = ofInt (a + b) := by
  obtain ⟨m, e, hof, -, hexact⟩ := ofInt_eq_finite ha
  obtain ⟨m', e', hof', -, hexact'⟩ := ofInt_eq_finite hb
  rw [hof, hof', plus, hexact, hexact', ← Int.cast_add, nearest_intCast]

theorem less_ofInt {a b : Int} (ha : IsWhole a) (hb : IsWhole b) :
    less (ofInt a) (ofInt b) = decide (a < b) := by
  obtain ⟨m, e, hof, -, hexact⟩ := ofInt_eq_finite ha
  obtain ⟨m', e', hof', -, hexact'⟩ := ofInt_eq_finite hb
  simp only [hof, hof', less, hexact, hexact', Int.cast_lt]

theorem ofInt_less_infinite {n : Int} (h : IsWhole n) :
    less (.infinite false) (ofInt n) = false ∧ less (ofInt n) (.infinite false) = true := by
  obtain ⟨m, e, hof, -, -⟩ := ofInt_eq_finite h
  simp [hof, less]

theorem fits_of_isWhole {n : Int} (h : IsWhole n) : Signed64.Fits n := by
  obtain ⟨h1, h2⟩ := h
  simp only [Signed64.Fits, Signed64.least, Signed64.greatest]
  omega

end Presence.Binary64

namespace Presence.Text

open Binary64

theorem isDigit_of_mem_toDigits {n : Nat} {c : Char} (h : c ∈ Nat.toDigits 10 n) :
    c.isDigit = true :=
  Nat.isDigit_of_mem_toDigits (by decide) (by decide) h

/-- The digits of a number are no sign, no word and hold no point. -/
theorem signed_toDigits (n : Nat) : signed (Nat.toDigits 10 n) = (false, Nat.toDigits 10 n) := by
  cases hl : Nat.toDigits 10 n with
  | nil => rfl
  | cons c cs =>
      have hc : c.isDigit = true := isDigit_of_mem_toDigits (hl ▸ List.mem_cons_self)
      obtain ⟨h1, h2⟩ := isDigit_ne_sign hc
      simp [signed, h1, h2]

theorem mantissa_toDigits (n : Nat) :
    mantissa (Nat.toDigits 10 n) = (Nat.toDigits 10 n, [], []) := by
  have hall : ∀ c ∈ Nat.toDigits 10 n, c.isDigit = true := fun c => isDigit_of_mem_toDigits
  have htake : (Nat.toDigits 10 n).takeWhile Char.isDigit = Nat.toDigits 10 n :=
    List.takeWhile_eq_self_iff.2 hall
  have hdrop : (Nat.toDigits 10 n).dropWhile Char.isDigit = [] :=
    List.dropWhile_eq_nil_iff.2 hall
  rw [mantissa, htake, hdrop]

theorem toLower_of_isDigit {c : Char} (h : c.isDigit = true) : c.toLower = c := by
  have hr : 48 ≤ c.toNat ∧ c.toNat ≤ 57 := by
    simp only [Char.isDigit, Bool.and_eq_true, decide_eq_true_eq, ge_iff_le] at h
    exact ⟨h.1, h.2⟩
  have hupper : ¬ (65 ≤ c.val ∧ c.val ≤ 90) := by
    rintro ⟨h1, -⟩
    have h1' : 65 ≤ c.toNat := h1
    omega
  exact dif_neg hupper

theorem word_toDigits {n : Nat} {w : String} {c : Char} {cs : List Char}
    (hw : w.toList = c :: cs) (hc : c.isDigit = false) :
    lowerAscii (String.ofList (Nat.toDigits 10 n)) ≠ w := by
  intro h
  have hlist : (Nat.toDigits 10 n).map Char.toLower = c :: cs := by
    rw [← hw, ← h, lowerAscii, String.toList_ofList, String.toList_ofList]
  cases hl : Nat.toDigits 10 n with
  | nil => exact Nat.toDigits_ne_nil hl
  | cons d ds =>
      have hd : d.isDigit = true := isDigit_of_mem_toDigits (hl ▸ List.mem_cons_self)
      rw [hl, List.map_cons, toLower_of_isDigit hd] at hlist
      injection hlist with hdc
      rw [← hdc, hd] at hc
      exact Bool.noConfusion hc

/-- A number that is written in at most sixteen digits without an exponent is the nearest one to the
integer. -/
theorem ofDecimal_zero (s : Bool) {n : Nat} (h : n < 10 ^ 16) :
    ofDecimal s n 0 = ofRatio s n 1 := by
  have hlen : (Nat.toDigits 10 n).length ≤ 16 :=
    (Nat.length_toDigits_le_iff (by decide) (by decide)).2 h
  rcases Nat.eq_zero_or_pos n with rfl | hpos
  · simp [ofDecimal, ofRatio]
  · have h0 : n ≠ 0 := Nat.ne_of_gt hpos
    have h1 : ¬ ((Nat.toDigits 10 n).length : Int) + 0 < -400 := by omega
    have h2 : ¬ (400 : Int) < ((Nat.toDigits 10 n).length : Int) + 0 := by omega
    have hpow : n * Nat.pow 10 (Int.toNat 0) = n := by simp
    simp only [ofDecimal, h0, h1, or_self, if_false, h2, le_refl, if_true, hpow]

/-- A number written in digits is read back as the number nearest to it. -/
theorem readFloat?_toString {n : Int} (h : IsWhole n) :
    readFloat? (toString n) = some (ofInt n) := by
  have hlt : n.natAbs < 10 ^ 16 := by
    obtain ⟨h1, h2⟩ := h
    omega
  have hsigned : signed (toString n).toList = (decide (n < 0), Nat.toDigits 10 n.natAbs) := by
    rw [toList_toString]
    split
    · simp [signed, *]
    · simp [signed_toDigits, *]
  have hinf : ¬ (lowerAscii (String.ofList (Nat.toDigits 10 n.natAbs)) = "inf" ∨
      lowerAscii (String.ofList (Nat.toDigits 10 n.natAbs)) = "infinity") := by
    rintro (h | h)
    · exact word_toDigits rfl (by decide) h
    · exact word_toDigits rfl (by decide) h
  have hnan : lowerAscii (String.ofList (Nat.toDigits 10 n.natAbs)) ≠ "nan" :=
    word_toDigits rfl (by decide)
  simp only [readFloat?, hsigned, hinf, hnan, if_false, mantissa_toDigits, Nat.toDigits_ne_nil,
    false_and, exponent?, Option.map_some, List.append_nil, Nat.ofDigitChars_ten_toDigits,
    List.length_nil, Nat.cast_zero, sub_zero, ofDecimal_zero _ hlt]
  rfl

end Presence.Text
