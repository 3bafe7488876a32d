import Presence.Calendar
import Presence.Text.Decimal

/-!
# Dates and times in settings

A moment is a date, a time of day or both, and where it has both it can have an offset from
universal time. The text of a moment is written as `1979-05-27T07:32:00.5+01:00`.
-/

set_option autoImplicit false

namespace Presence.Toml

/-- A time of day. A minute can have a second numbered 60. -/
structure TimeOfDay where
  hour : Nat
  minute : Nat
  second : Nat
  nanosecond : Nat
  deriving Repr, DecidableEq

/-- The offset of a zone from universal time. -/
inductive Offset where
  /-- Universal time by its letter. -/
  | universal
  /-- A number of minutes. -/
  | minutes (n : Int)
  deriving Repr, DecidableEq

/-- A date, a time of day, or both. -/
inductive Moment where
  | date (d : Date)
  | time (t : TimeOfDay)
  | both (d : Date) (t : TimeOfDay) (offset : Option Offset)
  deriving Repr, DecidableEq

/-- The number of two digits from the front, up to a bound. -/
def two? (high : Nat) : List Char → Option (Nat × List Char)
  | a :: b :: r => ((Text.digits? [a, b]).filter fun n => n ≤ high).map fun n => (n, r)
  | _ => none

/-- A date from the front. -/
def date? : List Char → Option (Date × List Char)
  | a :: b :: c :: d :: '-' :: r => do
    let year ← Text.digits? [a, b, c, d]
    match ← two? 12 r with
    | (month, '-' :: r) => do
      let (day, r) ← two? 31 r
      some (← Date.of? year month day, r)
    | _ => none
  | _ => none

/-- The digits of a second's fraction, as nanoseconds; further digits are dropped. -/
def nanoseconds (ds : List Char) : Nat :=
  Nat.ofDigitChars 10 ((ds ++ List.replicate 9 '0').take 9) 0

/-- The fraction of a second, if a point follows. -/
def fraction? : List Char → Option (Nat × List Char)
  | '.' :: r =>
    let ds := r.takeWhile Char.isDigit
    if ds.isEmpty then none else some (nanoseconds ds, r.dropWhile Char.isDigit)
  | r => some (0, r)

/-- A time of day from the front; the seconds can be left out. -/
def time? (cs : List Char) : Option (TimeOfDay × List Char) := do
  match ← two? 23 cs with
  | (hour, ':' :: r) => do
    match ← two? 59 r with
    | (minute, ':' :: r) => do
      let (second, r) ← two? 60 r
      let (nano, r) ← fraction? r
      some (⟨hour, minute, second, nano⟩, r)
    | (minute, r) => some (⟨hour, minute, 0, 0⟩, r)
  | _ => none

/-- An offset of a sign, hours and minutes. -/
def signedOffset? (negative : Bool) (cs : List Char) : Option Offset := do
  match ← two? 23 cs with
  | (hours, ':' :: r) => do
    match ← two? 59 r with
    | (minutes, []) =>
      let n : Int := hours * 60 + minutes
      some (.minutes (if negative then -n else n))
    | _ => none
  | _ => none

/-- The offset that is a whole text, none for the empty one. -/
def offset? : List Char → Option (Option Offset)
  | [] => some none
  | ['Z'] => some (some .universal)
  | ['z'] => some (some .universal)
  | '+' :: r => (signedOffset? false r).map some
  | '-' :: r => (signedOffset? true r).map some
  | _ => none

/-- A character between a date and a time. -/
def isJoint (c : Char) : Bool := c = 'T' || c = 't' || c = ' '

namespace Moment

/-- The moment of a whole text. -/
def ofChars? (cs : List Char) : Option Moment :=
  match date? cs with
  | some (d, []) => some (.date d)
  | some (d, c :: r) =>
    if isJoint c then do
      let (t, r) ← time? r
      some (.both d t (← offset? r))
    else none
  | none =>
    match time? cs with
    | some (t, []) => some (.time t)
    | _ => none

end Moment

/-- The text of a time of day. Zeros at the end of the fraction are left out. -/
def TimeOfDay.chars (t : TimeOfDay) : List Char :=
  let fraction :=
    if t.nanosecond = 0 then []
    else '.' :: ((Text.padded 9 t.nanosecond).reverse.dropWhile (· = '0')).reverse
  Text.padded 2 t.hour ++ ':' :: Text.padded 2 t.minute ++ ':' :: Text.padded 2 t.second ++ fraction

/-- The text of an offset. -/
def Offset.chars : Offset → List Char
  | .universal => ['Z']
  | .minutes n =>
    (if n < 0 then '-' else '+') :: Text.padded 2 (n.natAbs / 60) ++
      ':' :: Text.padded 2 (n.natAbs % 60)

/-- The text of a date. -/
def dateChars (d : Date) : List Char :=
  Text.padded 4 d.year.toNat ++ '-' :: Text.padded 2 d.month ++ '-' :: Text.padded 2 d.day

/-- The text of a moment. -/
def Moment.text : Moment → String
  | .date d => String.ofList (dateChars d)
  | .time t => String.ofList t.chars
  | .both d t o => String.ofList (dateChars d ++ 'T' :: t.chars ++ (o.map Offset.chars).getD [])

end Presence.Toml
