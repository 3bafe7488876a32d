import Presence.Signed64

/-!
# Binary floating point of 64 bits

A finite number is a sign, a mantissa below `2 ^ 53` and a power of two. Everything is computed
in exact integers: `ofRatio` rounds a quotient to the nearest number and a tie to the even
mantissa, `truncate` and `round` go back to integers, and `shortest` gives the fewest decimal
digits that lie in the interval of reals rounded to the number.
-/

set_option autoImplicit false

namespace Presence

/-- A binary number of 64 bits. -/
inductive Binary64 where
  | nan
  | infinite (negative : Bool)
  /-- The number `± mantissa · 2 ^ exponent`. -/
  | finite (negative : Bool) (mantissa : Nat) (exponent : Int)
  deriving Repr, DecidableEq

namespace Binary64

/-- The quotient `n / d` rounded to the nearest integer, a tie to the even one. -/
def nearestEven (n d : Nat) : Nat :=
  let q := n / d
  let r := n % d
  if 2 * r < d then q else if d < 2 * r then q + 1 else if q % 2 = 0 then q else q + 1

/-- The quotient `num / (den · 2 ^ e)` rounded to the nearest integer, a tie to the even one. -/
def scaled (num den : Nat) (e : Int) : Nat :=
  if 0 ≤ e then nearestEven num (den <<< e.toNat) else nearestEven (num <<< (-e).toNat) den

/-- The largest power of two that is not above `num / den`, both positive. -/
def floorLog2 (num den : Nat) : Int :=
  let e : Int := (Nat.log2 num : Int) - (Nat.log2 den : Int)
  let atLeast : Bool :=
    if 0 ≤ e then decide (den <<< e.toNat ≤ num) else decide (den ≤ num <<< (-e).toNat)
  if atLeast then e else e - 1

/-- The number nearest to `± num / den`, a tie to the even mantissa; infinite beyond the range. -/
def ofRatio (negative : Bool) (num den : Nat) : Binary64 :=
  if num = 0 ∨ den = 0 then .finite negative 0 (-1074)
  else
    -- 53 bits of mantissa, fewer only at the least exponent
    let e := max (-1074) (floorLog2 num den - 52)
    let m := scaled num den e
    -- rounding up can carry into the next power of two
    let (m, e) := if m = 1 <<< 53 then (1 <<< 52, e + 1) else (m, e)
    if 971 < e then .infinite negative else .finite negative m e

/-- The number nearest to an integer. -/
def ofInt (n : Int) : Binary64 := ofRatio (decide (n < 0)) n.natAbs 1

/-- The number nearest to `± digits · 10 ^ e`. Powers far outside the range are not formed. -/
def ofDecimal (negative : Bool) (digits : Nat) (e : Int) : Binary64 :=
  let size : Int := (Nat.toDigits 10 digits).length
  if digits = 0 ∨ size + e < -400 then .finite negative 0 (-1074)
  else if 400 < size + e then .infinite negative
  else if 0 ≤ e then ofRatio negative (digits * Nat.pow 10 e.toNat) 1
  else ofRatio negative digits (Nat.pow 10 (-e).toNat)

/-- The number divided by a positive integer. -/
def divNat (x : Binary64) (d : Nat) : Binary64 :=
  match x with
  | .finite s m e =>
    if 0 ≤ e then ofRatio s (m <<< e.toNat) d else ofRatio s m (d <<< (-e).toNat)
  | x => x

/-- The integer part of the magnitude. -/
def magnitude (m : Nat) (e : Int) : Nat :=
  if 0 ≤ e then m <<< e.toNat else m >>> (-e).toNat

/-- The magnitude rounded to the nearest integer, a half away from zero. -/
def roundedMagnitude (m : Nat) (e : Int) : Nat :=
  if 0 ≤ e then m <<< e.toNat else (2 * m + 1 <<< (-e).toNat) >>> ((-e).toNat + 1)

/-- The integer part as a signed 64-bit word: the nearest word beyond the range, zero for what is
no number. -/
def truncate : Binary64 → Int
  | .nan => 0
  | .infinite s => if s then Signed64.least else Signed64.greatest
  | .finite s m e =>
    Signed64.clamp (if s then -(magnitude m e : Int) else magnitude m e)

/-- The nearest integer, a half away from zero, as a signed 64-bit word. -/
def round : Binary64 → Int
  | .finite s m e =>
    Signed64.clamp (if s then -(roundedMagnitude m e : Int) else roundedMagnitude m e)
  | x => truncate x

/-- A number that is neither infinite nor undefined. -/
def isFinite : Binary64 → Bool
  | .finite .. => true
  | _ => false

/-- Decimal digits and the power of ten of the first of them: `d.ddd · 10 ^ power`. -/
structure Digits where
  digits : List Char
  power : Int
  deriving Repr, DecidableEq

/-- The largest power of ten that is not above `num / den`, both positive. -/
def floorLog10 (num den : Nat) : Int :=
  if den ≤ num then ((Nat.toDigits 10 (num / den)).length : Int) - 1
  else
    let l := (Nat.toDigits 10 (den / num)).length
    if den ≤ num * Nat.pow 10 (l - 1) then -((l : Int) - 1) else -(l : Int)

/-- The ends of the interval of magnitudes that round to `m · 2 ^ e`, and the magnitude itself,
over one denominator. -/
def interval (m : Nat) (e : Int) : Nat × Nat × Nat × Nat :=
  -- below a power of two the numbers are twice as dense
  let below := if m = 1 <<< 52 ∧ -1074 < e then 4 * m - 1 else 4 * m - 2
  let up := if 2 ≤ e then 1 <<< (e - 2).toNat else 1
  let den := if 2 ≤ e then 1 else 1 <<< (2 - e).toNat
  (below * up, 4 * m * up, (4 * m + 2) * up, den)

/-- The integer nearest to the magnitude on the grid of `10 ^ k`, if the interval holds one of its
two neighbours there. -/
def onGrid (m : Nat) (e k : Int) : Option Nat :=
  let (low, mid, high, den) := interval m e
  let up := if 0 ≤ k then 1 else Nat.pow 10 (-k).toNat
  let step := (if 0 ≤ k then Nat.pow 10 k.toNat else 1) * den
  let d := mid * up / step
  let closed := m % 2 = 0
  let inside (c : Nat) : Bool :=
    if closed then decide (low * up ≤ c * step ∧ c * step ≤ high * up)
    else decide (low * up < c * step ∧ c * step < high * up)
  -- of the two neighbours the nearer one is tried first
  let nearer := if 2 * (mid * up % step) ≤ step then (d, d + 1) else (d + 1, d)
  if inside nearer.1 then some nearer.1 else if inside nearer.2 then some nearer.2 else none

/-- The first grid, from coarse to fine, that has a point in the interval. -/
def searchGrid (m : Nat) (e top : Int) : Nat → Nat × Int
  | 0 => (m, e)
  | n + 1 =>
    let k := top - (16 - n : Int)
    match onGrid m e k with
    | some d => (d, k)
    | none => searchGrid m e top n

/-- The fewest decimal digits that read back as the positive number `m · 2 ^ e`, the nearest of
them. -/
def shortest (m : Nat) (e : Int) : Digits :=
  let (_, mid, _, den) := interval m e
  let (d, k) := searchGrid m e (floorLog10 mid den) 17
  let text := Nat.toDigits 10 d
  { digits := (text.reverse.dropWhile (· = '0')).reverse, power := k + text.length - 1 }

/-- How numbers are written: the powers of ten of the first digit that are written without an
exponent, and whether a whole number keeps a fraction. -/
structure Style where
  least : Int
  greatest : Int
  fraction : Bool

/-- Digits with the point after the first `n` of them, filled up with zeros. -/
def pointed (style : Style) (ds : List Char) (n : Int) : List Char :=
  if n ≤ 0 then ['0', '.'] ++ List.replicate (-n).toNat '0' ++ ds
  else
    let whole := ds.take n.toNat ++ List.replicate (n.toNat - ds.length) '0'
    match ds.drop n.toNat with
    | [] => if style.fraction then whole ++ ['.', '0'] else whole
    | rest => whole ++ '.' :: rest

/-- The text of a number in a style. -/
def text (style : Style) : Binary64 → String
  | .nan => "NaN"
  | .infinite s => if s then "-inf" else "inf"
  | .finite s m e =>
    let sign := if s then ['-'] else []
    if m = 0 then String.ofList (sign ++ if style.fraction then ['0', '.', '0'] else ['0'])
    else
      let d := shortest m e
      if style.least ≤ d.power ∧ d.power ≤ style.greatest then
        String.ofList (sign ++ pointed style d.digits (d.power + 1))
      else
        let tail := d.digits.drop 1
        let point := if tail.isEmpty then [] else '.' :: tail
        String.ofList (sign ++ d.digits.take 1 ++ point) ++ "e" ++ toString d.power

/-- The style of arguments and messages: no exponent from `0.00001` up to below `10 ^ 16`. -/
def Style.compact : Style := ⟨-5, 15, true⟩

/-- The style of configuration values: no exponent from `0.0001` up to below `10 ^ 16`. -/
def Style.settings : Style := ⟨-4, 15, true⟩

/-- The style of metrics: never an exponent, and no fraction on a whole number. -/
def Style.plain : Style := ⟨-400, 400, false⟩

end Binary64

end Presence
