import Presence.Json
import Presence.Text.Decimal

/-!
# JSON tokens

The first step of reading takes the characters apart into tokens. A string whose escapes name no
text and a number that is too large are tokens still, without a content, because a reader that
skips them need not look at it.
-/

set_option autoImplicit false

namespace Presence.Json

/-- The smallest parts of a JSON text. -/
inductive Token where
  | openArray
  | closeArray
  | openObject
  | closeObject
  | comma
  | colon
  | null
  | bool (b : Bool)
  /-- A string, with its text if the escapes name one. -/
  | string (text : Option String)
  /-- A number, with its value if it is in the range of numbers. -/
  | number (value : Option Json)

namespace Token

/-- The value of a digit of base 16 in either case. -/
def hexValue? (c : Char) : Option Nat :=
  if c.isDigit then some (c.toNat - 48)
  else if 'a' ≤ c ∧ c ≤ 'f' then some (c.toNat - 87)
  else if 'A' ≤ c ∧ c ≤ 'F' then some (c.toNat - 55)
  else none

/-- The number of four digits of base 16. -/
def unit? (a b c d : Char) : Option Nat := do
  some ((((← hexValue? a) * 16 + (← hexValue? b)) * 16 + (← hexValue? c)) * 16 + (← hexValue? d))

/-- The first of the two units of a character outside the basic plane. -/
def isLeading (u : Nat) : Bool := 0xD800 ≤ u && u < 0xDC00

/-- The second of the two units of a character outside the basic plane. -/
def isTrailing (u : Nat) : Bool := 0xDC00 ≤ u && u < 0xE000

/-- The character of one unit, if it is one by itself. -/
def single? (u : Nat) : Option Char :=
  if isLeading u || isTrailing u then none else some (Char.ofNat u)

/-- The character that an escape of one letter names. -/
def letterEscape? (c : Char) : Option Char :=
  match c with
  | '"' => some '"'
  | '\\' => some '\\'
  | '/' => some '/'
  | 'b' => some (Char.ofNat 8)
  | 'f' => some (Char.ofNat 12)
  | 'n' => some '\n'
  | 'r' => some '\r'
  | 't' => some '\t'
  | _ => none

/-- The characters of a string after its opening quote, nothing where an escape names no
character, and the rest after the closing quote. -/
def stringBody : List Char → Option (Option (List Char) × List Char)
  | [] => none
  | '"' :: rest => some (some [], rest)
  | '\\' :: 'u' :: a :: b :: c :: d :: '\\' :: 'u' :: e :: f :: g :: h :: rest =>
    match unit? a b c d, unit? e f g h with
    | some u, some v =>
      -- two units name one character outside the basic plane
      if isLeading u && isTrailing v then
        (stringBody rest).map fun p =>
          (p.1.map (Char.ofNat (0x10000 + (u - 0xD800) * 0x400 + (v - 0xDC00)) :: ·), p.2)
      else
        (stringBody ('\\' :: 'u' :: e :: f :: g :: h :: rest)).map fun p =>
          (match single? u, p.1 with
            | some x, some t => some (x :: t)
            | _, _ => none, p.2)
    | _, _ => none
  | '\\' :: 'u' :: a :: b :: c :: d :: rest =>
    match unit? a b c d with
    | some u =>
      (stringBody rest).map fun p =>
        (match single? u, p.1 with
          | some x, some t => some (x :: t)
          | _, _ => none, p.2)
    | none => none
  | '\\' :: c :: rest =>
    match letterEscape? c with
    | some x => (stringBody rest).map fun p => (p.1.map (x :: ·), p.2)
    | none => none
  | c :: rest =>
    if c.toNat < 32 ∨ c = '\\' then none
    else (stringBody rest).map fun p => (p.1.map (c :: ·), p.2)

/-- A run of digits from the front. -/
def digitRun (cs : List Char) : List Char × List Char := (cs.takeWhile Char.isDigit, cs.dropWhile Char.isDigit)

/-- The digits of a whole number: a zero alone, or a run that does not begin with one. -/
def wholePart : List Char → Option (List Char × List Char)
  | '0' :: rest => some (['0'], rest)
  | cs => let (ds, rest) := digitRun cs
    if ds.isEmpty then none else some (ds, rest)

/-- The digits of a fraction, if a point follows. -/
def fractionPart : List Char → Option (Option (List Char) × List Char)
  | '.' :: cs => let (ds, rest) := digitRun cs
    if ds.isEmpty then none else some (some ds, rest)
  | cs => some (none, cs)

/-- The value of an exponent, if one follows. -/
def exponentPart : List Char → Option (Option Int × List Char)
  | c :: cs =>
    if c = 'e' ∨ c = 'E' then
      let (negative, cs) := match cs with
        | '-' :: cs => (true, cs)
        | '+' :: cs => (false, cs)
        | cs => (false, cs)
      let (ds, rest) := digitRun cs
      if ds.isEmpty then none
      else
        let n : Int := Nat.ofDigitChars 10 ds 0
        some (some (if negative then -n else n), rest)
    else some (none, c :: cs)
  | [] => some (none, [])

/-- The value of a number from its parts. A zero with a minus sign is no integer. -/
def numberValue (negative : Bool) (whole : List Char) (fraction : Option (List Char))
    (exponent : Option Int) : Option Json :=
  let n := Nat.ofDigitChars 10 whole 0
  let asInt : Int := if negative then -(n : Int) else n
  if fraction.isNone && exponent.isNone && isWord asInt && !(negative && n = 0) then
    some (.int asInt)
  else
    let tail := fraction.getD []
    let x := Binary64.ofDecimal negative (Nat.ofDigitChars 10 (whole ++ tail) 0)
      (exponent.getD 0 - tail.length)
    if x.isFinite then some (.float x) else none

/-- A number from the front of a text. -/
def number? (cs : List Char) : Option (Option Json × List Char) := do
  let (negative, cs) := match cs with
    | '-' :: cs => (true, cs)
    | cs => (false, cs)
  let (whole, cs) ← wholePart cs
  let (fraction, cs) ← fractionPart cs
  let (exponent, cs) ← exponentPart cs
  some (numberValue negative whole fraction exponent, cs)

/-- One token from the front of a text that begins with no blank. -/
def first? : List Char → Option (Token × List Char)
  | '[' :: r => some (.openArray, r)
  | ']' :: r => some (.closeArray, r)
  | '{' :: r => some (.openObject, r)
  | '}' :: r => some (.closeObject, r)
  | ',' :: r => some (.comma, r)
  | ':' :: r => some (.colon, r)
  | 'n' :: 'u' :: 'l' :: 'l' :: r => some (.null, r)
  | 't' :: 'r' :: 'u' :: 'e' :: r => some (.bool true, r)
  | 'f' :: 'a' :: 'l' :: 's' :: 'e' :: r => some (.bool false, r)
  | '"' :: r => (stringBody r).map fun p => (.string (p.1.map String.ofList), p.2)
  | cs => (number? cs).map fun p => (.number p.1, p.2)

/-- A blank between tokens. -/
def isGap (c : Char) : Bool := c = ' ' || c = '\n' || c = '\t' || c = '\r'

/-- At most a number of tokens, which have to use up the text. -/
def scan : Nat → List Char → Option (List Token)
  | 0, cs => if (cs.dropWhile isGap).isEmpty then some [] else none
  | n + 1, cs =>
    match cs.dropWhile isGap with
    | [] => some []
    | c :: cs =>
      match first? (c :: cs) with
      | some (t, rest) => (scan n rest).map (t :: ·)
      | none => none

/-- The tokens of a text; there are no more of them than characters. -/
def ofChars? (cs : List Char) : Option (List Token) := scan cs.length cs

end Token

end Presence.Json
