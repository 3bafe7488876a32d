/-!
# Calendar dates

Days are counted from 1 January 1970 in the Gregorian calendar, extended in both directions.
`Date.ofDayNumber` gives the date of a day; that the month and the day of the month are possible
ones is part of the type.
-/

set_option autoImplicit false

namespace Presence

/-- A year of 366 days. -/
def isLeap (year : Int) : Bool := year % 4 = 0 && (year % 100 ≠ 0 || year % 400 = 0)

/-- The lengths of the months of a year, from January. -/
def monthLengths (year : Int) : List Nat :=
  [31, if isLeap year then 29 else 28, 31, 30, 31, 30, 31, 31, 30, 31, 30, 31]

/-- The length of a month, counted from one; no days beyond December. -/
def daysInMonth (year : Int) (month : Nat) : Nat :=
  if month = 0 then 0 else (monthLengths year).getD (month - 1) 0

/-- A day of the calendar. -/
structure Date where
  year : Int
  month : Nat
  day : Nat
  day_pos : 1 ≤ day
  day_le : day ≤ daysInMonth year month
  deriving Repr

namespace Date

theorem ext {a b : Date} (hy : a.year = b.year) (hm : a.month = b.month) (hd : a.day = b.day) :
    a = b := by
  cases a
  cases b
  simp only at hy hm hd
  subst hy hm hd
  rfl

instance : DecidableEq Date := fun a b =>
  if h : a.year = b.year ∧ a.month = b.month ∧ a.day = b.day then
    isTrue (ext h.1 h.2.1 h.2.2)
  else isFalse fun e => h (by simp [e])

/-- The date of a year, a month and a day, if there is such a day. -/
def of? (year : Int) (month day : Nat) : Option Date :=
  if h : 1 ≤ day ∧ day ≤ daysInMonth year month then some ⟨year, month, day, h.1, h.2⟩ else none

/-- A month with days is one of the twelve. -/
theorem month_le (d : Date) : 1 ≤ d.month ∧ d.month ≤ 12 := by
  have h1 := d.day_pos
  have h2 := d.day_le
  unfold daysInMonth at h2
  split at h2
  · omega
  · by_cases h : d.month ≤ 12
    · exact ⟨by omega, h⟩
    · have : (monthLengths d.year).getD (d.month - 1) 0 = 0 := by
        simp only [List.getD_eq_getElem?_getD]
        rw [List.getElem?_eq_none (by simp only [monthLengths, List.length_cons, List.length_nil]; omega)]
        rfl
      omega

/-- The earlier of two dates comes first: by year, then by month, then by day. -/
def compare (a b : Date) : Ordering :=
  (Ord.compare a.year b.year).then ((Ord.compare a.month b.month).then (Ord.compare a.day b.day))

/-- The number of days from the first day of year 0 to the first day of a year. -/
def daysBefore (year : Int) : Int :=
  365 * year + (year - 1) / 4 - (year - 1) / 100 + (year - 1) / 400 + 1

/-- The length of a year. -/
def yearLength (year : Int) : Int := if isLeap year then 366 else 365

/-- The days before a year and those of the year are the days before the next one. -/
theorem daysBefore_succ (y : Int) : daysBefore (y + 1) = daysBefore y + yearLength y := by
  simp only [daysBefore, yearLength, isLeap, Bool.and_eq_true, Bool.or_eq_true, decide_eq_true_eq,
    ne_eq]
  split <;> omega

/-- The year that holds a day, counted from the first day of year 0. -/
def yearOf (n : Int) : Int :=
  -- a cycle of 400 years has 146097 days, so the guess is off by one at most
  let y := 400 * n / 146097
  if n < daysBefore y then y - 1 else if n < daysBefore (y + 1) then y else y + 1

/-- A day lies in the year that is found for it. -/
theorem yearOf_spec (n : Int) : daysBefore (yearOf n) ≤ n ∧ n < daysBefore (yearOf n + 1) := by
  have h1 : daysBefore (400 * n / 146097 - 1) ≤ n := by
    simp only [daysBefore]
    omega
  have h2 : n < daysBefore (400 * n / 146097 + 1 + 1) := by
    simp only [daysBefore]
    omega
  simp only [yearOf]
  split
  · rename_i h
    exact ⟨h1, by rw [Int.sub_add_cancel]; exact h⟩
  · split
    · rename_i h h'
      exact ⟨by omega, h'⟩
    · rename_i h h'
      exact ⟨by omega, h2⟩

/-- The number of days of some months. -/
def total : List Nat → Nat
  | [] => 0
  | l :: rest => l + total rest

/-- The month and the day of the month of a day of the year, both counted from one, where the
lengths of the months are given. -/
def monthDay : List Nat → Nat → Nat → Nat × Nat
  | [], month, day => (month, day + 1)
  | l :: rest, month, day => if day < l then (month, day + 1) else monthDay rest (month + 1) (day - l)

/-- The month that is found comes not before the first one, and the day lies in this month. -/
theorem monthDay_spec (ls : List Nat) (day month : Nat) (h : day < total ls) :
    month ≤ (monthDay ls month day).1 ∧ 1 ≤ (monthDay ls month day).2 ∧
      (monthDay ls month day).2 ≤ ls.getD ((monthDay ls month day).1 - month) 0 := by
  induction ls generalizing day month with
  | nil => simp [total] at h
  | cons l rest ih =>
      simp only [total] at h
      unfold monthDay
      split
      · rename_i hl
        simp only [Nat.sub_self, List.getD_cons_zero]
        omega
      · rename_i hl
        have := ih (day - l) (month + 1) (by omega)
        refine ⟨by omega, this.2.1, ?_⟩
        obtain ⟨k, hk⟩ := Nat.exists_eq_add_of_le this.1
        rw [hk] at this ⊢
        have e : month + 1 + k - month = k + 1 := by omega
        rw [e, List.getD_cons_succ]
        simpa using this.2.2

/-- The months have as many days as the year. -/
theorem total_monthLengths (y : Int) : (total (monthLengths y) : Int) = yearLength y := by
  unfold monthLengths yearLength
  split <;> rfl

/-- The number of 1 January 1970, counted from the first day of year 0. -/
def epoch : Int := 719528

/-- The date of a day that is counted from 1 January 1970. -/
def ofDayNumber (n : Int) : Date :=
  let m := n + epoch
  let year := yearOf m
  let md := monthDay (monthLengths year) 1 (m - daysBefore year).toNat
  have h := monthDay_spec (monthLengths (yearOf m)) (m - daysBefore (yearOf m)).toNat 1 (by
    have h1 := yearOf_spec m
    have h2 := daysBefore_succ (yearOf m)
    have h3 := total_monthLengths (yearOf m)
    omega)
  { year
    month := md.1
    day := md.2
    day_pos := h.2.1
    day_le := by
      have h0 : md.1 ≠ 0 := Nat.ne_of_gt h.1
      simp only [daysInMonth, if_neg h0]
      exact h.2.2 }

/-- The number of a date, counted from 1 January 1970. -/
def dayNumber (d : Date) : Int :=
  daysBefore d.year + total ((monthLengths d.year).take (d.month - 1)) + d.day - 1 - epoch

end Date

end Presence
