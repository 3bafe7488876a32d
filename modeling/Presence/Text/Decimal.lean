import Presence.Signed64

/-!
# Integers in decimal digits

Reading accepts an optional sign and at least one ASCII digit, nothing else, and refuses a value
outside the stated range. Main statement: `digits?_toDigits`, reading gives back what writing
wrote.
-/

set_option autoImplicit false

namespace Presence.Text

/-- The value of a nonempty run of ASCII digits. -/
def digits? (cs : List Char) : Option Nat :=
  if cs ≠ [] ∧ cs.all Char.isDigit then some (Nat.ofDigitChars 10 cs 0) else none

/-- A signed decimal number without range. -/
def signed? : List Char → Option Int
  | '-' :: ds => (digits? ds).map fun n => -(n : Int)
  | '+' :: ds => (digits? ds).map fun n => (n : Int)
  | ds => (digits? ds).map fun n => (n : Int)

/-- An unsigned decimal number; a plus sign is allowed. -/
def unsigned? : List Char → Option Nat
  | '+' :: ds => digits? ds
  | ds => digits? ds

/-- A signed number between two bounds. -/
def readInt? (low high : Int) (s : String) : Option Int :=
  (signed? s.toList).filter fun n => low ≤ n && n ≤ high

/-- A number of a signed 64-bit word. -/
def readSigned64? (s : String) : Option Int :=
  readInt? Signed64.least Signed64.greatest s

/-- An unsigned number up to a bound. -/
def readNat? (high : Nat) (s : String) : Option Nat :=
  (unsigned? s.toList).filter fun n => n ≤ high

/-- A number as decimal digits, padded on the left with zeros to a width. -/
def padded (width n : Nat) : List Char :=
  let ds := Nat.toDigits 10 n
  List.replicate (width - ds.length) '0' ++ ds

/-- A number is read back from its digits. -/
theorem digits?_toDigits (n : Nat) : digits? (Nat.toDigits 10 n) = some n := by
  have hall : (Nat.toDigits 10 n).all Char.isDigit = true := by
    rw [List.all_eq_true]
    intro c hc
    exact Nat.isDigit_of_mem_toDigits (by decide) (by decide) hc
  simp only [digits?, Nat.toDigits_ne_nil, hall, ne_eq, not_false_eq_true, and_self, if_true,
    Nat.ofDigitChars_ten_toDigits]

end Presence.Text
