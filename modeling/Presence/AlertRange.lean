import Presence.Service

/-!
# Alert ranges

The alert range of a user, in minutes, is the bucket in which the accrued time of the user is kept.
It is looked up in the profile once and then kept in the presence store. Every bucket in use is
listed in an index, from which the scans start.
-/

set_option autoImplicit false

namespace Presence.Service

open Operation

/-- The range that a stored text names: a positive integer with blanks around it. -/
def cachedRange? (text : Option String) : Option Int :=
  (text.bind fun t => Text.readSigned64? (Text.trim t)).filter fun r => 0 < r

/-- Lists a bucket in the index. -/
def registerBucket (s : Service) (bucket : Int) : Operation Unit :=
  setScore s.keys.bucketIndex (toString bucket) bucket

/-- The range in the profile of a user, else the default one, which is then stored. A profile that
cannot be read gives the default range and stores nothing. -/
def loadRange (s : Service) (user : String) : Operation Int := do
  match ← (profile user).attempt with
  -- nothing is stored, so that the next event asks the profile again
  | .error _ => pure s.defaultRange
  | .ok chosen =>
    let range := (chosen.filter fun r => 0 < r).getD s.defaultRange
    setString (s.keys.alertRange user) (toString range) none
    s.registerBucket range
    pure range

/-- The alert range of a user. -/
def resolve (s : Service) (user : String) : Operation Int := do
  match cachedRange? (← getString (s.keys.alertRange user)) with
  | some range => pure range
  | none => s.loadRange user

/-- Moves the accrued time of a user from one bucket to another. -/
def moveAccrual (s : Service) (user : String) (previous range : Int) : Operation Unit := do
  let accrued ← getScore (s.keys.accrualSet previous) user
  removeMember (s.keys.accrualSet previous) user
  let _ ← incrScore (s.keys.accrualSet range) user accrued

/-- Gives a user another alert range; accrued time moves along. -/
def changeRange (s : Service) (user : String) (range : Int) : Operation Unit :=
  if range ≤ 0 then .fail (.nonPositiveRange range)
  else do
    let previous ← s.resolve user
    if previous = range then pure () else s.moveAccrual user previous range
    setString (s.keys.alertRange user) (toString range) none
    s.registerBucket range

/-- The buckets among the members of the index, with the default one, in ascending order. -/
def bucketsOf (s : Service) (members : List String) : List Int :=
  let listed := (members.filterMap Text.readSigned64?).filter fun b => 0 < b
  (Table.ofList ((s.defaultRange :: listed).map fun b => (b, ()))).keys

/-- The buckets in use. -/
def knownBuckets (s : Service) : Operation (List Int) := do
  pure (s.bucketsOf (← rangeByScore s.keys.bucketIndex 1 none))

end Presence.Service
