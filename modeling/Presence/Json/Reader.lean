import Presence.Json.Token

/-!
# Reading JSON

The second step of reading builds values from tokens, with the containers that are still open on
a stack. A strict reading refuses strings and numbers without a content and more than 127 open
containers; a lenient one, for values that nobody looks at, does not.
-/

set_option autoImplicit false

namespace Presence.Json

/-- A container that is still open: the items before, in reverse, or the members before, in
reverse, with the name of the next one. -/
inductive Frame where
  | items (before : List Json)
  | members (before : List (String × Json)) (name : String)

/-- How a value is read. -/
structure Manner where
  /-- Every string and every number has to have a content. -/
  strict : Bool
  /-- The number of containers that can be open at a time; any number where there is none. -/
  depth : Option Nat

/-- A manner in which one more container can be opened over a stack. -/
def Manner.admits (m : Manner) (stack : List Frame) : Bool :=
  match m.depth with
  | some d => stack.length < d
  | none => true

/-- The name of a member. -/
def Manner.name? (m : Manner) (t : Option String) : Option String :=
  if m.strict then t else some (t.getD "")

/-- The value of a number. -/
def Manner.number? (m : Manner) (v : Option Json) : Option Json :=
  if m.strict then v else some (v.getD .null)

mutual

/-- Reads a value and then what the open containers still need. -/
def value? (m : Manner) (stack : List Frame) : List Token → Option (Json × List Token)
  | .null :: r => resume? m .null stack r
  | .bool b :: r => resume? m (.bool b) stack r
  | .string t :: r =>
    match m.name? t with
    | some s => resume? m (.string s) stack r
    | none => none
  | .number v :: r =>
    match m.number? v with
    | some v => resume? m v stack r
    | none => none
  | .openArray :: .closeArray :: r =>
    if m.admits stack then resume? m (.array []) stack r else none
  | .openArray :: r => if m.admits stack then value? m (.items [] :: stack) r else none
  | .openObject :: .closeObject :: r =>
    if m.admits stack then resume? m (.object []) stack r else none
  | .openObject :: .string t :: .colon :: r =>
    match m.name? t with
    | some s => if m.admits stack then value? m (.members [] s :: stack) r else none
    | none => none
  | _ => none

/-- Gives a finished value to the innermost open container. -/
def resume? (m : Manner) (v : Json) (stack : List Frame) (r : List Token) :
    Option (Json × List Token) :=
  match stack, r with
  | [], r => some (v, r)
  | .items before :: k, .comma :: r => value? m (.items (v :: before) :: k) r
  | .items before :: k, .closeArray :: r => resume? m (.array (v :: before).reverse) k r
  | .members before name :: k, .comma :: .string t :: .colon :: r =>
    match m.name? t with
    | some s => value? m (.members ((name, v) :: before) s :: k) r
    | none => none
  | .members before name :: k, .closeObject :: r =>
    resume? m (.object ((name, v) :: before).reverse) k r
  | _, _ => none

end

/-- The manner of reading values that are looked at, inside a number of open containers. -/
def Manner.checked (outside : Nat) : Manner := ⟨true, some (127 - outside)⟩

/-- The manner of reading values that are skipped. -/
def Manner.skipping : Manner := ⟨false, none⟩

/-- The value of a whole text. -/
def read? (text : List Char) : Option Json := do
  let (v, rest) ← value? (.checked 0) [] (← Token.ofChars? text)
  if rest.isEmpty then some v else none

/-- The members of an object after its opening brace. The values of members with a wanted name are
read, all others skipped and left out. Every round reads at least one token. -/
def members? (wanted : String → Bool) : Nat → List Token → Option (List (String × Json) × List Token)
  | 0, _ => none
  | n + 1, ts =>
    match ts with
    | .string (some name) :: .colon :: r =>
      let manner := if wanted name then Manner.checked 1 else Manner.skipping
      match value? manner [] r with
      | some (v, rest) =>
        let here := if wanted name then [(name, v)] else []
        match rest with
        | .closeObject :: rest => some (here, rest)
        | .comma :: rest => (members? wanted n rest).map fun p => (here ++ p.1, p.2)
        | _ => none
      | none => none
    | _ => none

/-- The wanted members of a text that is an object, in order. -/
def record? (wanted : String → Bool) (text : List Char) : Option (List (String × Json)) := do
  match ← Token.ofChars? text with
  | [.openObject, .closeObject] => some []
  | .openObject :: ts =>
    match ← members? wanted ts.length ts with
    | (ms, []) => some ms
    | _ => none
  | _ => none

/-- The value of the only member with a name. -/
def only? (name : String) (ms : List (String × Json)) : Option Json :=
  match ms.filter fun m => m.1 = name with
  | [m] => some m.2
  | _ => none

end Presence.Json
