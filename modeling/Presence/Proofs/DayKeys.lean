import Mathlib.Data.List.TakeWhile
import Presence.DayKey
import Presence.Proofs.Decimal
import Presence.Proofs.OctetOrder

/-!
# Day keys and the calendar

Main statements: `Date.dayNumber_ofDayNumber` and `Date.compare_eq_compare_dayNumber`, the dates are
the days in their order; `Date.ofKey?_key`, the key of a plain date is read back; and
`Date.key_lt_iff`, the octets of keys are in the order of the dates.
-/

set_option autoImplicit false

namespace Presence

namespace Text

variable {cs ds : List Char} {w n k : Nat}

/-! ## Digits -/

theorem isDigit_of_mem_padded {c : Char} (h : c ∈ padded w n) : c.isDigit = true := by
  rcases List.mem_append.1 h with h | h
  · rw [(List.mem_replicate.1 h).2]
    rfl
  · exact Nat.isDigit_of_mem_toDigits (by decide) (by decide) h

theorem length_padded (hw : 0 < w) (h : n < 10 ^ w) : (padded w n).length = w := by
  have hle : (Nat.toDigits 10 n).length ≤ w := (Nat.length_toDigits_le_iff (by decide) hw).2 h
  rw [padded, List.length_append, List.length_replicate]
  omega

/-- A padded number begins with a digit. -/
theorem padded_eq_cons (hw : 0 < w) (h : n < 10 ^ w) :
    ∃ c cs, padded w n = c :: cs ∧ c.isDigit = true := by
  have hlen := length_padded hw h
  cases hp : padded w n with
  | nil =>
      rw [hp, List.length_nil] at hlen
      exact absurd hlen.symm (Nat.ne_of_gt hw)
  | cons c cs => exact ⟨c, cs, rfl, isDigit_of_mem_padded (w := w) (n := n) (hp ▸ .head _)⟩

theorem ofDigitChars_padded (w n : Nat) : Nat.ofDigitChars 10 (padded w n) 0 = n := by
  rw [padded, Nat.ofDigitChars_append, Nat.ofDigitChars_replicate_zero, Nat.mul_zero,
    Nat.ofDigitChars_ten_toDigits]

theorem digits?_padded (hw : 0 < w) (h : n < 10 ^ w) : digits? (padded w n) = some n := by
  have hne : padded w n ≠ [] := by
    obtain ⟨c, cs, hp, -⟩ := padded_eq_cons hw h
    exact hp ▸ List.cons_ne_nil c cs
  have hall : (padded w n).all Char.isDigit = true :=
    List.all_eq_true.2 fun c hc => isDigit_of_mem_padded hc
  rw [digits?, if_pos ⟨hne, hall⟩, ofDigitChars_padded]

/-- The first digit counts the greatest power. -/
theorem ofDigitChars_cons_zero (c : Char) (cs : List Char) :
    Nat.ofDigitChars 10 (c :: cs) 0 =
      10 ^ cs.length * (c.toNat - 48) + Nat.ofDigitChars 10 cs 0 := by
  rw [Nat.ofDigitChars_cons, Nat.ofDigitChars_eq_ofDigitChars_zero, Nat.mul_zero, Nat.zero_add]
  rfl

theorem ofDigitChars_lt (h : ∀ c ∈ cs, c.isDigit = true) :
    Nat.ofDigitChars 10 cs 0 < 10 ^ cs.length := by
  induction cs with
  | nil => exact Nat.one_pos
  | cons c cs ih =>
      have hrest := ih fun x hx => h x (List.mem_cons_of_mem c hx)
      have hc := toNat_of_isDigit (h c List.mem_cons_self)
      have hmul : 10 ^ cs.length * (c.toNat - 48) ≤ 10 ^ cs.length * 9 :=
        Nat.mul_le_mul_left _ (by omega)
      rw [ofDigitChars_cons_zero, List.length_cons, Nat.pow_succ]
      omega

/-- As many digits come in the order of what they count. -/
theorem lt_iff_ofDigitChars_lt (hc : ∀ c ∈ cs, c.isDigit = true) (hd : ∀ d ∈ ds, d.isDigit = true)
    (hlen : cs.length = ds.length) :
    cs < ds ↔ Nat.ofDigitChars 10 cs 0 < Nat.ofDigitChars 10 ds 0 := by
  induction cs generalizing ds with
  | nil =>
      obtain rfl := List.length_eq_zero_iff.1 hlen.symm
      exact iff_of_false (lt_irrefl _) (lt_irrefl _)
  | cons c cs ih =>
      cases ds with
      | nil => cases hlen
      | cons d ds =>
          have hcs : ∀ x ∈ cs, x.isDigit = true := fun x hx => hc x (List.mem_cons_of_mem c hx)
          have hds : ∀ x ∈ ds, x.isDigit = true := fun x hx => hd x (List.mem_cons_of_mem d hx)
          have hlen' : cs.length = ds.length := Nat.succ.inj hlen
          have hc0 := toNat_of_isDigit (hc c List.mem_cons_self)
          have hd0 := toNat_of_isDigit (hd d List.mem_cons_self)
          have hx := ofDigitChars_lt hcs
          have hy := ofDigitChars_lt hds
          have hhead : c :: cs < d :: ds ↔ c.toNat < d.toNat ∨ c.toNat = d.toNat ∧ cs < ds := by
            rw [List.cons_lt_cons_iff, ← Char.toNat_inj]
            exact Iff.rfl
          rw [hhead, ih hcs hds hlen', ofDigitChars_cons_zero, ofDigitChars_cons_zero, ← hlen']
          rw [← hlen'] at hy
          -- the first digit decides, unless it is the same
          rcases lt_trichotomy c.toNat d.toNat with h | h | h
          · have := Nat.mul_le_mul_left (10 ^ cs.length)
              (show c.toNat - 48 + 1 ≤ d.toNat - 48 by omega)
            rw [Nat.mul_add_one] at this
            omega
          · rw [h]
            omega
          · have := Nat.mul_le_mul_left (10 ^ cs.length)
              (show d.toNat - 48 + 1 ≤ c.toNat - 48 by omega)
            rw [Nat.mul_add_one] at this
            omega

end Text

namespace Date

/-! ## Days in their order -/

theorem daysInMonth_le (year : Int) (month : Nat) : daysInMonth year month ≤ 31 := by
  unfold daysInMonth
  split
  · exact Nat.zero_le _
  · rw [List.getD_eq_getElem?_getD]
    cases h : (monthLengths year)[month - 1]? with
    | none => exact Nat.zero_le _
    | some l =>
        have hl := List.mem_of_getElem? h
        simp only [monthLengths, List.mem_cons, List.not_mem_nil, or_false] at hl
        show l ≤ 31
        split at hl <;> omega

theorem total_append (ls ks : List Nat) : total (ls ++ ks) = total ls + total ks := by
  induction ls with
  | nil => exact (Nat.zero_add _).symm
  | cons l rest ih =>
      rw [List.cons_append, total, total, ih, Nat.add_assoc]

theorem total_take_succ (ls : List Nat) (k : Nat) :
    total (ls.take (k + 1)) = total (ls.take k) + ls.getD k 0 := by
  rw [List.take_add_one, total_append, List.getD_eq_getElem?_getD]
  cases ls[k]? with
  | none => rfl
  | some l => rfl

theorem total_take_mono (ls : List Nat) {j k : Nat} (h : j ≤ k) :
    total (ls.take j) ≤ total (ls.take k) := by
  induction h with
  | refl => exact le_rfl
  | step h ih =>
      rw [total_take_succ]
      omega

/-- The day of the month stands after the months before it. -/
theorem monthDay_position (ls : List Nat) (day month : Nat) (h : day < total ls) :
    total (ls.take ((monthDay ls month day).1 - month)) + (monthDay ls month day).2 = day + 1 := by
  induction ls generalizing day month with
  | nil => cases h
  | cons l rest ih =>
      unfold monthDay
      split
      · rw [Nat.sub_self]
        exact Nat.zero_add _
      · rename_i hl
        rw [total] at h
        have hpos := ih (day - l) (month + 1) (by omega)
        have hle := (monthDay_spec rest (day - l) (month + 1) (by omega)).1
        obtain ⟨k, hk⟩ := Nat.exists_eq_add_of_le hle
        rw [hk, Nat.add_sub_cancel_left] at hpos
        rw [hk, show month + 1 + k - month = k + 1 by omega, List.take_succ_cons, total]
        omega

/-- The date of a day is the date of this day. -/
theorem dayNumber_ofDayNumber (n : Int) : (ofDayNumber n).dayNumber = n := by
  have hspec := yearOf_spec (n + epoch)
  have hsucc := daysBefore_succ (yearOf (n + epoch))
  have htotal := total_monthLengths (yearOf (n + epoch))
  have hpos := monthDay_position (monthLengths (yearOf (n + epoch)))
    (n + epoch - daysBefore (yearOf (n + epoch))).toNat 1 (by omega)
  show daysBefore (yearOf (n + epoch)) + total ((monthLengths (yearOf (n + epoch))).take
    ((monthDay (monthLengths (yearOf (n + epoch))) 1
      (n + epoch - daysBefore (yearOf (n + epoch))).toNat).1 - 1)) +
    (monthDay (monthLengths (yearOf (n + epoch))) 1
      (n + epoch - daysBefore (yearOf (n + epoch))).toNat).2 - 1 - epoch = n
  omega

instance : LT Date := ⟨fun d e => compare d e = .lt⟩

instance : LE Date := ⟨fun d e => (compare d e).isLE = true⟩

instance (d e : Date) : Decidable (d < e) := inferInstanceAs (Decidable (_ = _))

instance (d e : Date) : Decidable (d ≤ e) := inferInstanceAs (Decidable (_ = _))

variable {d e : Date}

theorem lt_iff : d < e ↔ d.year < e.year ∨ d.year = e.year ∧
    (d.month < e.month ∨ d.month = e.month ∧ d.day < e.day) := by
  show compare d e = .lt ↔ _
  simp only [compare, Ordering.then_eq_lt, Int.compare_eq_lt, Int.compare_eq_eq,
    Nat.compare_eq_lt, Nat.compare_eq_eq]

/-- The dates are compared like numbers that grow with them. -/
theorem compare_eq_of_lt {f : Date → Int} (hf : ∀ {d e : Date}, d < e → f d < f e) (d e : Date) :
    compare d e = Ord.compare (f d) (f e) := by
  cases h : compare d e with
  | lt => exact (Int.compare_eq_lt.2 (hf h)).symm
  | eq =>
      simp only [compare, Ordering.then_eq_eq, Int.compare_eq_eq, Nat.compare_eq_eq] at h
      rw [ext h.1 h.2.1 h.2.2]
      exact (Int.compare_eq_eq.2 rfl).symm
  | gt =>
      have hlt : e < d := by
        simp only [compare, Ordering.then_eq_gt, Int.compare_eq_gt, Int.compare_eq_eq,
          Nat.compare_eq_gt, Nat.compare_eq_eq] at h
        exact lt_iff.2 (by omega)
      exact (Int.compare_eq_gt.2 (hf hlt)).symm

theorem daysBefore_mono {y z : Int} (h : y ≤ z) : daysBefore y ≤ daysBefore z := by
  simp only [daysBefore]
  omega

/-- The day of the month is one of the days of the month. -/
theorem position_le (d : Date) :
    total ((monthLengths d.year).take (d.month - 1)) + d.day ≤
      total ((monthLengths d.year).take d.month) := by
  have hle := d.day_le
  obtain ⟨k, hk⟩ := Nat.exists_eq_add_of_le' d.month_le.1
  rw [hk, daysInMonth, if_neg (Nat.succ_ne_zero k)] at hle
  rw [hk, total_take_succ]
  exact Nat.add_le_add_left hle _

/-- The day belongs to its year. -/
theorem dayNumber_lt_daysBefore (d : Date) : d.dayNumber + epoch < daysBefore (d.year + 1) := by
  have hpos := d.position_le
  have hall := total_take_mono (monthLengths d.year) d.month_le.2
  have hlength : total ((monthLengths d.year).take 12) = yearLength d.year :=
    total_monthLengths d.year
  rw [daysBefore_succ, dayNumber]
  omega

/-- An earlier day has the smaller number. -/
theorem dayNumber_lt_of_lt (h : d < e) : d.dayNumber < e.dayNumber := by
  have hfirst := e.day_pos
  rcases lt_iff.1 h with hyear | ⟨hyear, hmonth | ⟨hmonth, hday⟩⟩
  · have hle := d.dayNumber_lt_daysBefore.trans_le (daysBefore_mono hyear)
    have he : daysBefore e.year ≤ e.dayNumber + epoch := by
      rw [dayNumber]
      omega
    omega
  · have hpos := d.position_le
    have hmono := total_take_mono (monthLengths d.year) (Nat.le_sub_one_of_lt hmonth)
    rw [dayNumber, dayNumber, ← hyear]
    omega
  · rw [dayNumber, dayNumber, ← hyear, ← hmonth]
    omega

theorem compare_eq_compare_dayNumber (d e : Date) :
    compare d e = Ord.compare d.dayNumber e.dayNumber :=
  compare_eq_of_lt dayNumber_lt_of_lt d e

theorem lt_iff_dayNumber_lt : d < e ↔ d.dayNumber < e.dayNumber := by
  show compare d e = .lt ↔ _
  rw [compare_eq_compare_dayNumber, Int.compare_eq_lt]

theorem le_iff_dayNumber_le : d ≤ e ↔ d.dayNumber ≤ e.dayNumber := by
  show (compare d e).isLE = true ↔ _
  rw [compare_eq_compare_dayNumber, Int.isLE_compare]

theorem not_lt_iff : ¬ e < d ↔ d ≤ e := by
  rw [lt_iff_dayNumber_lt, le_iff_dayNumber_le, Int.not_lt]

/-! ## Keys -/

/-- A date whose year is written in four digits, without a sign. -/
def Plain (d : Date) : Prop := 0 ≤ d.year ∧ d.year ≤ 9999

instance (d : Date) : Decidable d.Plain := inferInstanceAs (Decidable (_ ∧ _))

theorem toList_key (h : d.Plain) : d.key.toList =
    Text.padded 4 d.year.toNat ++ Text.padded 2 d.month ++ Text.padded 2 d.day := by
  rw [key, String.toList_ofList, Instant.yearText]
  exact congrArg (· ++ Text.padded 2 d.month ++ Text.padded 2 d.day) (if_pos h)

/-- The numbers of a plain date have as many digits as its key has for them. -/
theorem Plain.bounds (h : d.Plain) :
    d.year.toNat < 10 ^ 4 ∧ d.month < 10 ^ 2 ∧ d.day < 10 ^ 2 := by
  have hmonth := d.month_le
  have hday := d.day_le.trans (daysInMonth_le d.year d.month)
  have := h.2
  omega

theorem isDigit_of_mem_key (h : d.Plain) {c : Char} (hc : c ∈ d.key.toList) :
    c.isDigit = true := by
  rw [toList_key h, List.mem_append, List.mem_append] at hc
  rcases hc with (hc | hc) | hc <;> exact Text.isDigit_of_mem_padded hc

theorem length_key (h : d.Plain) : d.key.toList.length = 8 := by
  obtain ⟨hyear, hmonth, hday⟩ := h.bounds
  rw [toList_key h, List.length_append, List.length_append, Text.length_padded (by decide) hyear,
    Text.length_padded (by decide) hmonth, Text.length_padded (by decide) hday]

/-- What the digits of a key count. -/
theorem ofDigitChars_key (h : d.Plain) :
    Nat.ofDigitChars 10 d.key.toList 0 = d.year.toNat * 10000 + d.month * 100 + d.day := by
  obtain ⟨-, hmonth, hday⟩ := h.bounds
  rw [toList_key h, Nat.ofDigitChars_append, Nat.ofDigitChars_append, Text.ofDigitChars_padded,
    Nat.ofDigitChars_eq_ofDigitChars_zero, Text.ofDigitChars_padded,
    @Nat.ofDigitChars_eq_ofDigitChars_zero (Text.padded 2 d.month), Text.ofDigitChars_padded,
    Text.length_padded (by decide) hmonth, Text.length_padded (by decide) hday]
  omega

/-- The octets of the keys of plain dates are in the order of the dates. -/
theorem key_lt_iff (hd : d.Plain) (he : e.Plain) :
    Text.octets d.key < Text.octets e.key ↔ d < e := by
  rw [Text.octets_lt_iff, String.lt_iff_toList_lt,
    Text.lt_iff_ofDigitChars_lt (fun c => isDigit_of_mem_key hd) (fun c => isDigit_of_mem_key he)
      ((length_key hd).trans (length_key he).symm),
    ofDigitChars_key hd, ofDigitChars_key he, lt_iff]
  have := hd.bounds
  have := he.bounds
  have := hd.1
  have := he.1
  omega

/-- A year with a minus sign comes before all plain dates, and so does its key. -/
theorem key_lt_of_neg (hd : d.year < 0) (he : e.Plain) : Text.octets d.key < Text.octets e.key := by
  have hkey : d.key.toList = '-' :: (Text.padded 4 d.year.natAbs ++ Text.padded 2 d.month ++
      Text.padded 2 d.day) := by
    rw [key, String.toList_ofList, Instant.yearText, if_neg (by omega), if_pos hd]
    rfl
  rw [Text.octets_lt_iff, String.lt_iff_toList_lt, hkey]
  obtain ⟨c, cs, hp, hc⟩ := Text.padded_eq_cons (by decide) he.bounds.1
  rw [toList_key he, hp]
  refine List.cons_lt_cons_iff.2 (.inl ?_)
  show 45 < c.toNat
  exact Nat.lt_of_lt_of_le (by decide) (Text.toNat_of_isDigit hc).1

/-! ## Reading -/

/-- The digits of a number are taken from the front, as many as it was written with. -/
theorem leadingNat?_padded {w n : Nat} (hw : 0 < w) (h : n < 10 ^ w) (rest : List Char) :
    leadingNat? w (Text.padded w n ++ rest) = some (n, rest) := by
  have hlen := Text.length_padded hw h
  have htake : (Text.padded w n ++ rest).take w = Text.padded w n := by
    rw [List.take_append_of_le_length (le_of_eq hlen.symm), List.take_of_length_le (le_of_eq hlen)]
  have hdigits : (Text.padded w n).takeWhile Char.isDigit = Text.padded w n :=
    List.takeWhile_eq_self_iff.2 fun c hc => Text.isDigit_of_mem_padded hc
  rw [leadingNat?, htake, hdigits, Text.digits?_padded hw h, Option.map_some, List.drop_left]

/-- No blank stands before the digits of a number. -/
theorem dropWhile_padded {w n : Nat} (hw : 0 < w) (h : n < 10 ^ w) (rest : List Char) :
    (Text.padded w n ++ rest).dropWhile Text.isBlank = Text.padded w n ++ rest := by
  obtain ⟨c, cs, hp, hc⟩ := Text.padded_eq_cons hw h
  rw [hp, List.cons_append, List.dropWhile_cons_of_neg]
  simp [Text.isBlank_eq_false_of_isDigit hc]

theorem leadingYear?_padded {n : Nat} (h : n < 10 ^ 4) (rest : List Char) :
    leadingYear? (Text.padded 4 n ++ rest) = some ((n : Int), rest) := by
  have hread := leadingNat?_padded (by decide) h rest
  obtain ⟨c, cs, hp, hc⟩ := Text.padded_eq_cons (by decide) h
  obtain ⟨hminus, hplus⟩ := Text.isDigit_ne_sign hc
  rw [hp, List.cons_append] at hread ⊢
  unfold leadingYear?
  split
  · rename_i heq
    exact absurd (List.cons.inj heq).1 hminus
  · rename_i heq
    exact absurd (List.cons.inj heq).1 hplus
  · rw [hread]
    rfl

/-- The key of a plain date is read back. -/
theorem ofKey?_key (h : d.Plain) : ofKey? d.key = some d := by
  obtain ⟨hyear, hmonth, hday⟩ := h.bounds
  have hwithin : isYear d.year = true := by
    have := h.1
    have := h.2
    simp only [isYear, Bool.and_eq_true, decide_eq_true_eq]
    omega
  have hcast : (d.year.toNat : Int) = d.year := Int.toNat_of_nonneg h.1
  have hlast : Text.padded 2 d.day = Text.padded 2 d.day ++ [] := (List.append_nil _).symm
  unfold ofKey?
  rw [toList_key h, List.append_assoc, dropWhile_padded (by decide) hyear,
    leadingYear?_padded hyear]
  dsimp only [bind, Option.bind]
  rw [dropWhile_padded (by decide) hmonth, leadingNat?_padded (by decide) hmonth]
  dsimp only
  rw [hlast, dropWhile_padded (by decide) hday, leadingNat?_padded (by decide) hday, hcast]
  dsimp only
  rw [if_pos ⟨rfl, hwithin⟩, of?, dif_pos ⟨d.day_pos, d.day_le⟩]

end Date

end Presence
