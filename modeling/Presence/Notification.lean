import Presence.Json.Reader
import Presence.Json.Writer

/-!
# Notifications

A notification names a user, a template and parameters. In its JSON value the members of the
template stand beside those of the notification itself.
-/

set_option autoImplicit false

namespace Presence

/-- What a notification is about. -/
inductive Template where
  /-- The user has been online for a time that reaches a level. -/
  | onlineTimeAlert (level : Nat)
  /-- The user is still online at night. -/
  | sleepReminder
  deriving Repr, DecidableEq

namespace Template

/-- The kind of a notification with this template. -/
def kind : Template → String
  | .onlineTimeAlert level => "online_time_alert_level_" ++ toString level
  | .sleepReminder => "sleep_reminder"

/-- The members that name the template. -/
def members : Template → List (String × Json)
  | .onlineTimeAlert level => [("template", .string "online_time_alert"), ("level", .int level)]
  | .sleepReminder => [("template", .string "sleep_reminder")]

/-- The greatest level. -/
def greatestLevel : Nat := 4294967295

/-- Whether a value names the alert; a template is named by its name or its place in the list. -/
def isAlert? : Json → Option Bool
  | .string s =>
    if s = "online_time_alert" then some true else if s = "sleep_reminder" then some false else none
  | .int n => if n = 0 then some true else if n = 1 then some false else none
  | _ => none

/-- The template that the members of an object name. -/
def ofMembers? (ms : List (String × Json)) : Option Template := do
  if ← isAlert? (← Json.only? "template" ms) then
    let level ← (← Json.only? "level" ms).int? 0 greatestLevel
    some (.onlineTimeAlert level.toNat)
  else some .sleepReminder

end Template

/-- A message to a user. -/
structure Notification where
  user : String
  template : Template
  kind : String
  params : Table String Json

namespace Notification

/-- A notification without parameters. -/
def ofTemplate (user : String) (template : Template) : Notification :=
  ⟨user, template, template.kind, .empty⟩

/-- The notification with a parameter set. -/
def withParam (n : Notification) (name : String) (value : Json) : Notification :=
  { n with params := n.params.set name value }

/-- The JSON value of a notification. -/
def toJson (n : Notification) : Json :=
  .object (("userId", .string n.user) :: n.template.members ++
    [("kind", .string n.kind), ("params", .object n.params.entries)])

/-- The text of a notification. -/
def encode (n : Notification) : String := n.toJson.text

/-- The notification of a text, which has to be an object. -/
def decode? (text : String) : Option Notification := do
  let ms ← Json.record? (fun _ => true) text.toList
  let params ← (← Json.only? "params" ms).object?
  some {
    user := ← (← Json.only? "userId" ms).string?
    template := ← Template.ofMembers? ms
    kind := ← (← Json.only? "kind" ms).string?
    params := Table.ofList (Json.sortedMembers params) }

end Notification

end Presence
