import Presence.Toml

/-!
# Tables under construction

While a document is read, its tables remember how they came about: a header opens a table once, a
dotted key adds to tables that dotted keys made, and a header with two brackets adds a table to a
list. A key is set once.
-/

set_option autoImplicit false

namespace Presence.Toml

/-- How a table came about. -/
inductive Origin where
  /-- A header or a list names a table inside it. -/
  | implied
  /-- A dotted key leads through it. -/
  | dotted
  /-- A header names it. -/
  | named
  deriving Repr, DecidableEq

/-- A value under construction. -/
inductive Node where
  /-- A value that is finished. -/
  | value (v : Toml)
  | table (origin : Origin) (entries : List (String × Node))
  /-- A list of tables, of which the last is the one that keys are added to. -/
  | tables (earlier : List (List (String × Node))) (last : List (String × Node))

/-- Entries under construction. -/
abbrev Draft := List (String × Node)

namespace Draft

/-- Changes the table to which a path leads. Tables that are missing are made. A finished value
cannot be entered, and a dotted key does not enter a table that a header names. -/
def change? (dotted : Bool) (f : Origin → Draft → Option (Origin × Draft)) :
    List String → Origin → Draft → Option (Origin × Draft)
  | [], o, d => f o d
  | k :: path, o, d => do
    let node ← match d.lookup k with
      | none => do
        let (o, d) ← change? dotted f path (if dotted then .dotted else .implied) []
        some (Node.table o d)
      | some (.table sub entries) =>
        -- a table that a header named is closed to dotted keys
        if dotted ∧ sub = .named then none
        else do
          let (o, d) ← change? dotted f path sub entries
          some (.table o d)
      | some (.tables earlier last) => do
        -- keys are added to the last table of a list
        let (_, d) ← change? dotted f path .named last
        some (.tables earlier d)
      | some (.value _) => none
    some (o, put k node d)

/-- Sets a key that is not set. A dotted key adds to tables of dotted keys only, a plain key to
all others. -/
def define? (dotted : Bool) (key : String) (v : Toml) (o : Origin) (d : Draft) :
    Option (Origin × Draft) :=
  if dotted ≠ decide (o = .dotted) then none
  else match d.lookup key with
    | none => some (o, put key (.value v) d)
    | some _ => none

/-- Sets a key at the end of a path. -/
def insert? (path : List String) (key : String) (v : Toml) (o : Origin) (d : Draft) :
    Option (Origin × Draft) :=
  change? true (define? (!path.isEmpty) key v) path o d

/-- Opens the table of a header: a new one, or one that a header inside it implied. -/
def openTable? (path : List String) (key : String) (d : Draft) : Option Draft :=
  (change? false (fun o d =>
    match d.lookup key with
    | none => some (o, put key (.table .named []) d)
    | some (.table .implied entries) => some (o, put key (.table .named entries) d)
    | some _ => none) path .named d).map (·.2)

/-- Adds a table to the list of a header. -/
def openItem? (path : List String) (key : String) (d : Draft) : Option Draft :=
  (change? false (fun o d =>
    match d.lookup key with
    | none => some (o, put key (.tables [] []) d)
    | some (.tables earlier last) => some (o, put key (.tables (earlier ++ [last]) []) d)
    | some _ => none) path .named d).map (·.2)

mutual

/-- The finished value. -/
def finished : Node → Toml
  | .value v => v
  | .table _ entries => .table (finish entries)
  | .tables earlier last => .array (finishAll earlier ++ [.table (finish last)])

/-- The finished entries. -/
def finish : List (String × Node) → List (String × Toml)
  | [] => []
  | (k, n) :: rest => (k, finished n) :: finish rest

/-- The finished tables of a list. -/
def finishAll : List (List (String × Node)) → List Toml
  | [] => []
  | t :: rest => .table (finish t) :: finishAll rest

end

end Draft

end Presence.Toml
