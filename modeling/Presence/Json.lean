import Presence.Binary64
import Presence.Table

/-!
# JSON values

A value keeps the members of an object in order. Where a value stands for data, as in the
parameters of a notification, the members are sorted by name and each name occurs once: `sorted`
brings a value into this form.
-/

set_option autoImplicit false

namespace Presence

/-- A JSON value. A number without fraction and exponent that a 64-bit word holds is an `int`. -/
inductive Json where
  | null
  | bool (b : Bool)
  | int (n : Int)
  | float (x : Binary64)
  | string (s : String)
  | array (items : List Json)
  | object (members : List (String × Json))

namespace Json

/-- The integers that a signed or an unsigned 64-bit word holds. -/
def isWord (n : Int) : Bool := -9223372036854775808 ≤ n && n ≤ 18446744073709551615

/-- The text of a string. -/
def string? : Json → Option String
  | .string s => some s
  | _ => none

/-- The number of an integer between two bounds. -/
def int? (low high : Int) : Json → Option Int
  | .int n => if low ≤ n ∧ n ≤ high then some n else none
  | _ => none

/-- The number of an integer of a signed 64-bit word. -/
def signed64? : Json → Option Int := int? Signed64.least Signed64.greatest

/-- The members of an object. -/
def object? : Json → Option (List (String × Json))
  | .object ms => some ms
  | _ => none

/-- The items of an array. -/
def array? : Json → Option (List Json)
  | .array xs => some xs
  | _ => none

/-- The value of a member, if there is one. -/
def get? (name : String) : Json → Option Json
  | .object ms => ms.lookup name
  | _ => none

mutual

/-- The value with the members of every object sorted by name, the last of equal names kept. -/
def sorted : Json → Json
  | .array xs => .array (sortedItems xs)
  | .object ms => .object (Table.ofList (sortedMembers ms)).entries
  | v => v

/-- The items, each sorted. -/
def sortedItems : List Json → List Json
  | [] => []
  | v :: rest => sorted v :: sortedItems rest

/-- The members in the given order, each value sorted. -/
def sortedMembers : List (String × Json) → List (String × Json)
  | [] => []
  | (k, v) :: rest => (k, sorted v) :: sortedMembers rest

end

end Json

end Presence
