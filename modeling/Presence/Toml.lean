import Presence.Binary64
import Presence.Toml.Moment

/-!
# Settings as values

A TOML document is a table of values, and tables hold tables. Two documents are merged key by key:
where both have a table the tables are merged, and elsewhere the later document wins.

Main statement: `lookup_mergeEntries`, the value of a key after a merge.
-/

set_option autoImplicit false

namespace Presence

/-- A TOML value. The entries of a table are found by their keys, so that of two entries with one
key the first counts. -/
inductive Toml where
  | string (s : String)
  | integer (n : Int)
  | float (x : Binary64)
  | boolean (b : Bool)
  | moment (m : Toml.Moment)
  | array (items : List Toml)
  | table (entries : List (String × Toml))

namespace Toml

variable {α : Type}

/-- The entries with a key set. -/
def put (key : String) (a : α) : List (String × α) → List (String × α)
  | [] => [(key, a)]
  | (k, b) :: rest => if k = key then (key, a) :: rest else (k, b) :: put key a rest

/-- What is put under a key is found there. -/
theorem lookup_put_self (key : String) (a : α) (es : List (String × α)) :
    (put key a es).lookup key = some a := by
  induction es with
  | nil => simp [put]
  | cons e rest ih =>
      obtain ⟨k, b⟩ := e
      by_cases h : k = key
      · simp [put, h]
      · have h' : (key == k) = false := beq_false_of_ne fun e => h e.symm
        simp [put, h, List.lookup_cons, h', ih]

/-- Under every other key the same is found as before. -/
theorem lookup_put_ne {key other : String} (h : other ≠ key) (a : α) (es : List (String × α)) :
    (put key a es).lookup other = es.lookup other := by
  induction es with
  | nil => simp [put, List.lookup_cons, beq_false_of_ne h]
  | cons e rest ih =>
      obtain ⟨k, b⟩ := e
      by_cases hk : k = key
      · subst hk
        simp [put, List.lookup_cons, beq_false_of_ne h]
      · simp [put, hk, List.lookup_cons, ih]

/-- The value of a key of a table. -/
def get? (key : String) : Toml → Option Toml
  | .table es => es.lookup key
  | _ => none

mutual

/-- The value with another laid over it. -/
def merge (base : Toml) : Toml → Toml
  | .table added =>
    match base with
    | .table es => .table (mergeEntries es added)
    | _ => .table added
  | v => v

/-- The entries with others laid over them. -/
def mergeEntries (base : List (String × Toml)) : List (String × Toml) → List (String × Toml)
  | [] => base
  | (k, v) :: rest =>
    put k (mergeUnder (base.lookup k) v) (mergeEntries base rest)

/-- The value laid over what a key holds already, if it holds anything. -/
def mergeUnder (base : Option Toml) (v : Toml) : Toml :=
  match base with
  | some b => merge b v
  | none => v

end

/-- Under every key, a merged table holds the later value laid over the earlier one. -/
theorem lookup_mergeEntries (base added : List (String × Toml)) (key : String) :
    (mergeEntries base added).lookup key =
      match added.lookup key with
      | some v => some (mergeUnder (base.lookup key) v)
      | none => base.lookup key := by
  induction added with
  | nil => simp [mergeEntries]
  | cons e rest ih =>
      obtain ⟨k, v⟩ := e
      rw [mergeEntries]
      by_cases h : key = k
      · subst h
        rw [lookup_put_self]
        simp
      · rw [lookup_put_ne h, ih]
        simp [List.lookup_cons, beq_false_of_ne h]

end Toml

end Presence
