/-!
# The range of signed 64-bit integers

Scores, ranges, daily totals and delays are kept in signed 64-bit words. They are modelled by
`Int`, and every sum or product that could leave the range is formed by an operation of this
module, which has no value then. `Signed64.Fits` is the range itself.
-/

set_option autoImplicit false

namespace Presence.Signed64

/-- The least value of a signed 64-bit word. -/
def least : Int := -9223372036854775808

/-- The greatest value of a signed 64-bit word. -/
def greatest : Int := 9223372036854775807

/-- A number that a signed 64-bit word can hold. -/
def Fits (n : Int) : Prop := least ≤ n ∧ n ≤ greatest

instance (n : Int) : Decidable (Fits n) := inferInstanceAs (Decidable (_ ∧ _))

/-- The number itself where it fits, nothing otherwise. -/
def ofInt? (n : Int) : Option Int := if Fits n then some n else none

/-- A sum that stays in the range. -/
def add? (a b : Int) : Option Int := ofInt? (a + b)

/-- A product that stays in the range. -/
def mul? (a b : Int) : Option Int := ofInt? (a * b)

/-- The nearest number of the range. -/
def clamp (n : Int) : Int := max least (min greatest n)

/-- The signed reading of an unsigned 64-bit word. -/
def ofUnsigned (n : Nat) : Int :=
  if (n : Int) ≤ greatest then n else n - 18446744073709551616

/-- Only a number of the range has a value, itself. -/
theorem ofInt?_eq_some {n m : Int} : ofInt? n = some m ↔ Fits n ∧ n = m := by
  unfold ofInt?
  split <;> simp_all

/-- A sum has a value exactly if it stays in the range. -/
theorem add?_eq_some {a b m : Int} : add? a b = some m ↔ Fits (a + b) ∧ a + b = m :=
  ofInt?_eq_some

theorem add?_of_fits {a b : Int} (h : Fits (a + b)) : add? a b = some (a + b) :=
  add?_eq_some.2 ⟨h, rfl⟩

/-- A product has a value exactly if it stays in the range. -/
theorem mul?_eq_some {a b m : Int} : mul? a b = some m ↔ Fits (a * b) ∧ a * b = m :=
  ofInt?_eq_some

end Presence.Signed64
