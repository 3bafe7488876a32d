/-!
# Keys of the presence store

Everything the service keeps in the presence store stands under a key of one of five families. A
namespace, if there is one, is put in front of every key.
-/

set_option autoImplicit false

namespace Presence

/-- The namespace of the keys; an empty one counts as none. -/
structure Keys where
  space : Option String
  deriving Repr, DecidableEq

namespace Keys

/-- The keys of a namespace. -/
def ofNamespace (space : Option String) : Keys := ⟨space.filter fun s => s ≠ ""⟩

/-- A key with the namespace in front. -/
def key (k : Keys) (raw : String) : String :=
  match k.space with
  | some s => s ++ ":" ++ raw
  | none => raw

/-- The instant of the last activity of a user. -/
def sessionMarker (k : Keys) (user : String) : String := k.key ("last_online:" ++ user)

/-- The accrued seconds of the users whose alert range is a bucket. -/
def accrualSet (k : Keys) (bucket : Int) : String := k.key ("online_users:" ++ toString bucket)

/-- The buckets in use. -/
def bucketIndex (k : Keys) : String := k.key "online_users:buckets"

/-- The alert range of a user. -/
def alertRange (k : Keys) (user : String) : String := k.key ("user_alert_range:" ++ user)

/-- Whether a job is switched on. -/
def jobSwitch (k : Keys) (job : String) : String := k.key ("job_active:" ++ job)

end Keys

end Presence
