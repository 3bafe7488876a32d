import Presence.Json.Token

/-!
# Strings, keys and line ends of TOML

Control characters other than the tab stand nowhere in a document. A string in double quotes has
escapes, one in single quotes has none; with three quotes each holds line breaks, of which the
first is dropped and every other one is a line feed.
-/

set_option autoImplicit false

namespace Presence.Toml

/-- A blank inside a line. -/
def isGap (c : Char) : Bool := c = ' ' || c = '\t'

/-- A character that can stand in a comment or a string. -/
def isPlain (c : Char) : Bool := c = '\t' || (32 ≤ c.toNat && c.toNat ≠ 127)

/-- The text after the blanks in front. -/
def skipGaps (cs : List Char) : List Char := cs.dropWhile isGap

/-- The text after a line break. -/
def newline? : List Char → Option (List Char)
  | '\n' :: r => some r
  | '\r' :: '\n' :: r => some r
  | _ => none

/-- The text after blanks and a comment. -/
def skipComment (cs : List Char) : List Char :=
  match skipGaps cs with
  | '#' :: r => r.dropWhile isPlain
  | r => r

/-- The text after at most a number of lines that are blank or comments. -/
def skipLinesUpTo : Nat → List Char → List Char
  | 0, cs => cs
  | n + 1, cs =>
    let r := skipComment cs
    match newline? r with
    | some r => skipLinesUpTo n r
    | none => r

/-- The text after blanks, comments and line breaks. -/
def skipLines (cs : List Char) : List Char := skipLinesUpTo (cs.length + 1) cs

/-- The text after the end of a line, where there is nothing else on it. -/
def lineEnd? (cs : List Char) : Option (List Char) :=
  match skipComment cs with
  | [] => some []
  | r => newline? r

/-- The character of a code in base 16. -/
def code? (ds : List Char) : Option Char := do
  let n ← ds.foldlM (fun n c => (Json.Token.hexValue? c).map fun d => 16 * n + d) 0
  if n < 0xD800 ∨ (0xE000 ≤ n ∧ n < 0x110000) then some (Char.ofNat n) else none

/-- The character that an escape of one letter names. -/
def letter? (c : Char) : Option Char :=
  match c with
  | '"' => some '"'
  | '\\' => some '\\'
  | 'b' => some (Char.ofNat 8)
  | 'e' => some (Char.ofNat 27)
  | 'f' => some (Char.ofNat 12)
  | 'n' => some '\n'
  | 'r' => some '\r'
  | 't' => some '\t'
  | _ => none

/-- Puts a character in front of what was read after it. -/
def before (c : Option Char) (p : Option (List Char × List Char)) : Option (List Char × List Char) := do
  let (s, r) ← p
  some ((← c) :: s, r)

/-- A character as it stands in a string, if it can. -/
def plain? (c : Char) : Option Char := if isPlain c && c ≠ '\\' then some c else none

/-- A string in double quotes after the opening quote, and the rest. -/
def quoted? : List Char → Option (List Char × List Char)
  | [] => none
  | '"' :: r => some ([], r)
  | '\\' :: 'x' :: a :: b :: r => before (code? [a, b]) (quoted? r)
  | '\\' :: 'u' :: a :: b :: c :: d :: r => before (code? [a, b, c, d]) (quoted? r)
  | '\\' :: 'U' :: a :: b :: c :: d :: e :: f :: g :: h :: r =>
    before (code? [a, b, c, d, e, f, g, h]) (quoted? r)
  | '\\' :: c :: r => before (letter? c) (quoted? r)
  | c :: r => before (plain? c) (quoted? r)

/-- The end of a string in three quotes: of more quotes up to two belong to the string. -/
def closing (q : Char) : List Char → List Char × List Char
  | a :: b :: r => if a = q then if b = q then ([q, q], r) else ([q], b :: r) else ([], a :: b :: r)
  | [a] => if a = q then ([q], []) else ([], [a])
  | [] => ([], [])

/-- A string in three double quotes after the opening quotes and a line break, and the rest. After
a backslash at the end of a line blanks and line breaks are dropped. -/
def block? (dropping : Bool) : List Char → Option (List Char × List Char)
  | [] => none
  | '"' :: '"' :: '"' :: r => some (closing '"' r)
  | '\r' :: '\n' :: r => if dropping then block? true r else before (some '\n') (block? false r)
  | '\n' :: r => if dropping then block? true r else before (some '\n') (block? false r)
  | '\\' :: 'x' :: a :: b :: r => before (code? [a, b]) (block? false r)
  | '\\' :: 'u' :: a :: b :: c :: d :: r => before (code? [a, b, c, d]) (block? false r)
  | '\\' :: 'U' :: a :: b :: c :: d :: e :: f :: g :: h :: r =>
    before (code? [a, b, c, d, e, f, g, h]) (block? false r)
  | '\\' :: c :: r =>
    -- a backslash at the end of a line joins it to the next text
    if (newline? (skipGaps (c :: r))).isSome then block? true (c :: r)
    else before (letter? c) (block? false r)
  | c :: r => if dropping && isGap c then block? true r else before (plain? c) (block? false r)

/-- A string in single quotes after the opening quote, and the rest. -/
def literal? (cs : List Char) : Option (List Char × List Char) :=
  let inside (c : Char) : Bool := isPlain c && c ≠ '\''
  match cs.dropWhile inside with
  | '\'' :: r => some (cs.takeWhile inside, r)
  | _ => none

/-- A string in three single quotes after the opening quotes and a line break, and the rest. -/
def literalBlock? : List Char → Option (List Char × List Char)
  | [] => none
  | '\'' :: '\'' :: '\'' :: r => some (closing '\'' r)
  | '\r' :: '\n' :: r => before (some '\n') (literalBlock? r)
  | '\n' :: r => before (some '\n') (literalBlock? r)
  | c :: r => before (if isPlain c then some c else none) (literalBlock? r)

/-- The text after a line break, if there is one in front. -/
def dropNewline (cs : List Char) : List Char := (newline? cs).getD cs

/-- A string of any of the four forms from the front. -/
def string? : List Char → Option (List Char × List Char)
  | '"' :: '"' :: '"' :: r => block? false (dropNewline r)
  | '"' :: r => quoted? r
  | '\'' :: '\'' :: '\'' :: r => literalBlock? (dropNewline r)
  | '\'' :: r => literal? r
  | _ => none

/-- A character of a key without quotes. -/
def isBare (c : Char) : Bool := c.isAlphanum || c = '_' || c = '-'

/-- A key from the front. -/
def key? (cs : List Char) : Option (String × List Char) :=
  match cs with
  | '"' :: r => (quoted? r).map fun p => (String.ofList p.1, p.2)
  | '\'' :: r => (literal? r).map fun p => (String.ofList p.1, p.2)
  | cs =>
    match cs.takeWhile isBare with
    | [] => none
    | k => some (String.ofList k, cs.dropWhile isBare)

/-- Keys with dots between them, at most a number of them: all before the last, and the last. -/
def path? : Nat → List Char → Option (List String × String × List Char)
  | 0, _ => none
  | n + 1, cs => do
    let (k, r) ← key? (skipGaps cs)
    match skipGaps r with
    | '.' :: r => do
      let (path, last, r) ← path? n r
      some (k :: path, last, r)
    | r => some ([], k, r)

/-- The greatest number of keys with dots between them. -/
def pathLimit : Nat := 80

end Presence.Toml
