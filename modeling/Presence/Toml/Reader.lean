import Presence.Toml.Draft
import Presence.Toml.Number
import Presence.Toml.Text

/-!
# Reading TOML

A document is a sequence of lines: keys with values, and headers that name the table to which the
keys below them belong. A text that breaks a rule anywhere has no value.
-/

set_option autoImplicit false

namespace Presence.Toml

/-- A reader of a value from the front of a text. -/
abbrev Reader (α : Type) := List Char → Option (α × List Char)

/-- A character that can belong to a value without quotes. -/
def isAtomChar (c : Char) : Bool :=
  !(isGap c || c = '\n' || c = '\r' || c = ',' || c = ']' || c = '}' || c = '#')

/-- The value of a word, a number or a moment. -/
def atom? (cs : List Char) : Option Toml :=
  match cs with
  | ['t', 'r', 'u', 'e'] => some (.boolean true)
  | ['f', 'a', 'l', 's', 'e'] => some (.boolean false)
  | cs => (number? cs).or ((Moment.ofChars? cs).map .moment)

/-- A value without quotes from the front. A date goes on after a blank if a digit follows. -/
def scalar? (cs : List Char) : Option (Toml × List Char) :=
  let word := cs.takeWhile isAtomChar
  match date? word, cs.dropWhile isAtomChar with
  | some (_, []), ' ' :: c :: r =>
    -- a date and a time with a blank between them are one word
    if c.isDigit then
      (atom? (word ++ ' ' :: (c :: r).takeWhile isAtomChar)).map fun v =>
        (v, (c :: r).dropWhile isAtomChar)
    else (atom? word).map fun v => (v, ' ' :: c :: r)
  | _, r => (atom? word).map fun v => (v, r)

/-- The items of an array after its opening bracket. Every round reads at least one character. -/
def items? (value : Reader Toml) : Nat → List Char → Option (List Toml × List Char)
  | 0, _ => none
  | n + 1, cs =>
    match skipLines cs with
    | ']' :: r => some ([], r)
    | cs => do
      let (v, r) ← value cs
      match skipLines r with
      | ',' :: r => (items? value n r).map fun p => (v :: p.1, p.2)
      | ']' :: r => some ([v], r)
      | _ => none

/-- The entries of a table in braces after the opening one. Every round reads at least one
character. -/
def members? (value : Reader Toml) : Nat → Draft → List Char → Option (Draft × List Char)
  | 0, _, _ => none
  | n + 1, d, cs =>
    match skipLines cs with
    | '}' :: r => some (d, r)
    | cs => do
      match ← path? pathLimit cs with
      | (path, key, '=' :: r) => do
        let (v, r) ← value (skipGaps r)
        let (_, d) ← d.insert? path key v .named
        match skipLines r with
        | ',' :: r => members? value n d r
        | '}' :: r => some (d, r)
        | _ => none
      | _ => none

/-- A value in which arrays and tables in braces are nested at most to a depth. -/
def value? : Nat → Reader Toml
  | depth, cs =>
    match cs with
    | '"' :: _ => (string? cs).map fun p => (.string (String.ofList p.1), p.2)
    | '\'' :: _ => (string? cs).map fun p => (.string (String.ofList p.1), p.2)
    | '[' :: r =>
      match depth with
      | 0 => none
      | d + 1 => (items? (value? d) (r.length + 1) r).map fun p => (.array p.1, p.2)
    | '{' :: r =>
      match depth with
      | 0 => none
      | d + 1 => (members? (value? d) (r.length + 1) [] r).map fun p => (.table (Draft.finish p.1), p.2)
    | cs => scalar? cs

/-- The greatest depth to which values are nested. -/
def depthLimit : Nat := 80

/-- A document that has been read in part: its entries, and the table that the last header named. -/
structure Document where
  draft : Draft := []
  header : List String := []

/-- The document with a key set in the table of the last header. -/
def Document.insert? (doc : Document) (path : List String) (key : String) (v : Toml) :
    Option Document :=
  (Draft.change? false (Draft.insert? path key v) doc.header .named doc.draft).map fun p =>
    { doc with draft := p.2 }

/-- Reads a line that is not blank. -/
def line? (doc : Document) : Reader Document
  | '[' :: '[' :: r => do
    match ← path? pathLimit r with
    | (path, key, ']' :: ']' :: r) => do
      some (⟨← doc.draft.openItem? path key, path ++ [key]⟩, ← lineEnd? r)
    | _ => none
  | '[' :: r => do
    match ← path? pathLimit r with
    | (path, key, ']' :: r) => do
      some (⟨← doc.draft.openTable? path key, path ++ [key]⟩, ← lineEnd? r)
    | _ => none
  | cs => do
    match ← path? pathLimit cs with
    | (path, key, '=' :: r) => do
      let (v, r) ← value? depthLimit (skipGaps r)
      some (← doc.insert? path key v, ← lineEnd? r)
    | _ => none

/-- Reads at most a number of lines. Every line has at least one character. -/
def lines? : Nat → Document → List Char → Option Document
  | 0, _, _ => none
  | n + 1, doc, cs =>
    match skipLines cs with
    | [] => some doc
    | cs => do
      let (doc, r) ← line? doc cs
      lines? n doc r

/-- The table of a text. A mark of the byte order in front is skipped. -/
def read? (text : String) : Option Toml := do
  let cs := match text.toList with
    | '\uFEFF' :: r => r
    | cs => cs
  let doc ← lines? (cs.length + 1) {} cs
  some (.table (Draft.finish doc.draft))

end Presence.Toml
