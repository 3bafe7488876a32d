import Presence.Toml

/-!
# Records

A record is written as a table whose unknown keys are skipped, or as an array of its values in
order. Reading a field says what happens where it is left out.
-/

set_option autoImplicit false

namespace Presence.Toml

/-- The values of the fields of a record by name. -/
abbrev Fields := String → Option Toml

/-- The fields of a record with the given names. A moment is a record none of whose names is
known. -/
def fields? (names : List String) : Toml → Option Fields
  | .table es => some fun n => es.lookup n
  | .array xs => if xs.length ≤ names.length then some fun n => (names.zip xs).lookup n else none
  -- a moment has a single key, which no record knows
  | .moment _ => some fun _ => none
  | _ => none

variable {α : Type}

/-- A field that can be left out. -/
def maybe? (read : Toml → Option α) : Option Toml → Option (Option α)
  | none => some none
  | some v => (read v).map some

/-- A field with a value where it is left out. -/
def orElse? (read : Toml → Option α) (value : α) (v : Option Toml) : Option α :=
  (maybe? read v).map fun a => a.getD value

/-- A text. -/
def text? : Toml → Option String
  | .string s => some s
  | _ => none

/-- A truth value. -/
def bool? : Toml → Option Bool
  | .boolean b => some b
  | _ => none

/-- An integer. -/
def int? : Toml → Option Int
  | .integer n => some n
  | _ => none

/-- An integer from zero to a bound. -/
def nat? (high : Nat) : Toml → Option Nat
  | .integer n => if 0 ≤ n ∧ n ≤ (high : Int) then some n.toNat else none
  | _ => none

/-- The greatest unsigned word of 32 bits. -/
def word32 : Nat := 4294967295

/-- The greatest unsigned word of 64 bits. -/
def word64 : Nat := 18446744073709551615

/-- Records by name. -/
def profiles? (read : Toml → Option α) : Toml → Option (List (String × α))
  | .table es => es.mapM fun e => (read e.2).map fun a => (e.1, a)
  | _ => none

end Presence.Toml
