import Presence.Json.Reader
import Presence.Json.Writer

/-!
# Activity events

A user is active with every request; a light request that only asks is a heartbeat. Events travel
as JSON text. Reading looks at the user and the kind alone, in any order, among members with other
names; a pair of the two values is read as well.
-/

set_option autoImplicit false

namespace Presence

/-- What an event tells about its user. -/
inductive ActivityKind where
  /-- A light request, which only observes whether the session has ended. -/
  | heartbeat
  /-- Any other request, which keeps the session open. -/
  | activity
  deriving Repr, DecidableEq

namespace ActivityKind

/-- The name of a kind. -/
def name : ActivityKind → String
  | .heartbeat => "heartbeat"
  | .activity => "activity"

/-- The kind of a name, spelled exactly. -/
def ofName? (s : String) : Option ActivityKind :=
  if s = "heartbeat" then some .heartbeat else if s = "activity" then some .activity else none

/-- A kind of activity is found by its name. -/
theorem ofName?_name (k : ActivityKind) : ofName? k.name = some k := by
  cases k <;> decide

/-- The kind of a JSON value: its name, or an object whose only member has this name and no
value. -/
def ofJson? : Json → Option ActivityKind
  | .string s => ofName? s
  | .object [(s, .null)] => ofName? s
  | _ => none

end ActivityKind

/-- An event of a user. -/
structure ActivityEvent where
  user : String
  kind : ActivityKind
  deriving Repr, DecidableEq

namespace ActivityEvent

/-- The JSON value of an event. -/
def toJson (e : ActivityEvent) : Json :=
  .object [("userId", .string e.user), ("kind", .string e.kind.name)]

/-- The text of an event. -/
def encode (e : ActivityEvent) : String := e.toJson.text

/-- The event of two values. -/
def ofValues? (user kind : Json) : Option ActivityEvent := do
  some ⟨← user.string?, ← ActivityKind.ofJson? kind⟩

/-- The names of the members that are read. -/
def isMember (name : String) : Bool := name = "userId" || name = "kind"

/-- The event of a text. -/
def decode? (text : String) : Option ActivityEvent :=
  match Json.record? isMember text.toList with
  | some ms => do ofValues? (← Json.only? "userId" ms) (← Json.only? "kind" ms)
  -- no object: a pair of the two values
  | none =>
    match Json.read? text.toList with
    | some (.array [user, kind]) => ofValues? user kind
    | _ => none

end ActivityEvent

end Presence
