import Presence.Json

/-!
# Writing JSON

Values are written without blanks. In a string the quote, the backslash and the control characters
below the blank are escaped; every other character stands for itself.
-/

set_option autoImplicit false

namespace Presence.Json

/-- A digit of base 16 in lower case. -/
def hexDigit (n : Nat) : Char := Nat.digitChar n

/-- A character as it stands inside the quotes of a string. -/
def escape (c : Char) : List Char :=
  if c = '"' then ['\\', '"']
  else if c = '\\' then ['\\', '\\']
  else if c.toNat = 8 then ['\\', 'b']
  else if c.toNat = 9 then ['\\', 't']
  else if c.toNat = 10 then ['\\', 'n']
  else if c.toNat = 12 then ['\\', 'f']
  else if c.toNat = 13 then ['\\', 'r']
  else if c.toNat < 32 then
    ['\\', 'u', '0', '0', hexDigit (c.toNat / 16), hexDigit (c.toNat % 16)]
  else [c]

/-- A string with its quotes. -/
def quoted (s : String) : List Char := '"' :: s.toList.flatMap escape ++ ['"']

mutual

/-- The text of a value. -/
def write : Json → List Char
  | .null => ['n', 'u', 'l', 'l']
  | .bool true => ['t', 'r', 'u', 'e']
  | .bool false => ['f', 'a', 'l', 's', 'e']
  | .int n => (toString n).toList
  | .float x => if x.isFinite then (x.text .compact).toList else ['n', 'u', 'l', 'l']
  | .string s => quoted s
  | .array xs => '[' :: writeItems xs ++ [']']
  | .object ms => '{' :: writeMembers ms ++ ['}']

/-- The items of an array with commas between them. -/
def writeItems : List Json → List Char
  | [] => []
  | [v] => write v
  | v :: w :: rest => write v ++ ',' :: writeItems (w :: rest)

/-- The members of an object with commas between them. -/
def writeMembers : List (String × Json) → List Char
  | [] => []
  | [(k, v)] => quoted k ++ ':' :: write v
  | (k, v) :: m :: rest => quoted k ++ ':' :: write v ++ ',' :: writeMembers (m :: rest)

end

/-- The text of a value. -/
def text (v : Json) : String := String.ofList (write v)

end Presence.Json
