import Presence.Binary64
import Presence.Text.Blank

/-!
# Floating point numbers from text

A number is written with an optional sign and is infinite, undefined, or digits with at most one
point among them and an optional exponent. At least one digit has to stand there.
-/

set_option autoImplicit false

namespace Presence.Text

/-- A sign in front, and whether it is a minus. -/
def signed : List Char → Bool × List Char
  | '-' :: r => (true, r)
  | '+' :: r => (false, r)
  | r => (false, r)

/-- The exponent that is the whole rest; zero where there is none. -/
def exponent? : List Char → Option Int
  | [] => some 0
  | c :: r =>
    if c = 'e' || c = 'E' then
      let (negative, ds) := signed r
      if ds ≠ [] ∧ ds.all Char.isDigit then
        let n : Int := Nat.ofDigitChars 10 ds 0
        some (if negative then -n else n)
      else none
    else none

/-- The digits before and after the point, and the rest. -/
def mantissa (cs : List Char) : List Char × List Char × List Char :=
  let whole := cs.takeWhile Char.isDigit
  match cs.dropWhile Char.isDigit with
  | '.' :: r => (whole, r.takeWhile Char.isDigit, r.dropWhile Char.isDigit)
  | r => (whole, [], r)

/-- The number of a whole text. -/
def readFloat? (s : String) : Option Binary64 :=
  let (negative, cs) := signed s.toList
  let word := lowerAscii (String.ofList cs)
  if word = "inf" ∨ word = "infinity" then some (.infinite negative)
  else if word = "nan" then some .nan
  else
    let (whole, tail, rest) := mantissa cs
    if whole = [] ∧ tail = [] then none
    else (exponent? rest).map fun e =>
      .ofDecimal negative (Nat.ofDigitChars 10 (whole ++ tail) 0) (e - tail.length)

end Presence.Text
