import Presence.Json.Token
import Presence.Toml

/-!
# Numbers of TOML

An integer is decimal, or has one of three prefixes for the bases 16, 8 and 2. A number with a
fraction or an exponent is a float. Single underscores can stand between digits, and a decimal
number does not begin with a needless zero.
-/

set_option autoImplicit false

namespace Presence.Toml

/-- The digits of a run in which single underscores can stand between digits. -/
def run? (isDigit : Char → Bool) : List Char → Option (List Char)
  | [] => none
  | [c] => if isDigit c then some [c] else none
  | c :: '_' :: r => if isDigit c then (run? isDigit r).map (c :: ·) else none
  | c :: r => if isDigit c then (run? isDigit r).map (c :: ·) else none

/-- The digits of a decimal number that does not begin with a needless zero. -/
def decimal? (cs : List Char) : Option (List Char) :=
  (run? Char.isDigit cs).filter fun ds => ds.head? ≠ some '0' || ds.length = 1

/-- An integer that a signed 64-bit word holds. -/
def integerOf? (n : Int) : Option Toml := (Signed64.ofInt? n).map .integer

/-- The value of digits in a base up to 16. -/
def based? (base : Nat) (cs : List Char) : Option Toml := do
  let isDigit (c : Char) : Bool := ((Json.Token.hexValue? c).map fun d => decide (d < base)).getD false
  let ds ← run? isDigit cs
  integerOf? (ds.foldl (fun n c => base * n + ((Json.Token.hexValue? c).getD 0)) 0 : Nat)

/-- A sign in front, and the rest. -/
def sign : List Char → Bool × List Char
  | '-' :: r => (true, r)
  | '+' :: r => (false, r)
  | r => (false, r)

/-- A digit or an underscore. -/
def isRunChar (c : Char) : Bool := c.isDigit || c = '_'

/-- The digits of a fraction, if a point follows, and the rest. -/
def decimals? : List Char → Option (List Char × List Char)
  | '.' :: r => (run? Char.isDigit (r.takeWhile isRunChar)).map fun ds => (ds, r.dropWhile isRunChar)
  | r => some ([], r)

/-- The exponent that is the whole rest, zero for an empty one. -/
def exponent? : List Char → Option Int
  | [] => some 0
  | c :: r =>
    if c = 'e' || c = 'E' then
      let (negative, r) := sign r
      (run? Char.isDigit r).map fun ds =>
        let n : Int := Nat.ofDigitChars 10 ds 0
        if negative then -n else n
    else none

/-- A decimal number without its sign. -/
def unsigned? (negative : Bool) (cs : List Char) : Option Toml := do
  let whole ← decimal? (cs.takeWhile isRunChar)
  match cs.dropWhile isRunChar with
  | [] =>
    let n : Int := Nat.ofDigitChars 10 whole 0
    integerOf? (if negative then -n else n)
  | r =>
    let (tail, r) ← decimals? r
    let e ← exponent? r
    let x := Binary64.ofDecimal negative (Nat.ofDigitChars 10 (whole ++ tail) 0) (e - tail.length)
    if x.isFinite then some (.float x) else none

/-- The number of a whole text. -/
def number? : List Char → Option Toml
  | '0' :: 'x' :: r => based? 16 r
  | '0' :: 'o' :: r => based? 8 r
  | '0' :: 'b' :: r => based? 2 r
  | cs =>
    match sign cs with
    | (negative, ['i', 'n', 'f']) => some (.float (.infinite negative))
    | (_, ['n', 'a', 'n']) => some (.float .nan)
    | (negative, r) => unsigned? negative r

end Presence.Toml
