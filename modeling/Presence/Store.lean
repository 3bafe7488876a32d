import Presence.Call

/-!
# A presence store in memory

Texts with the instant after which they have expired, and sets of members with scores. Main
statements: `getString_setString` and `getScore_setScore` say what a write does to every reading.
-/

set_option autoImplicit false

namespace Presence

/-- A text with the last instant at which it can be read, if there is a last one. -/
structure StoredText where
  value : String
  expires : Option Instant
  deriving DecidableEq

/-- The content of a presence store. -/
structure Store where
  strings : Table String StoredText := .empty
  sets : Table String (Table String Int) := .empty

namespace Store

/-- A text that has not expired at an instant. -/
def StoredText.isAlive (e : StoredText) (now : Instant) : Bool :=
  match e.expires with
  | none => true
  | some t => decide (now ≤ t)

/-- The text at a key, unless it has expired. -/
def getString (s : Store) (now : Instant) (key : String) : Option String :=
  ((s.strings.get? key).filter fun e => StoredText.isAlive e now).map (·.value)

/-- Writes a text that lasts for ever or for a number of seconds. -/
def setString (s : Store) (now : Instant) (key value : String) (ttl : Option Nat) :
    Outcome Unit × Store :=
  let write (expires : Option Instant) : Outcome Unit × Store :=
    (.ok (), { s with strings := s.strings.set key ⟨value, expires⟩ })
  -- a lifetime beyond the signed range counts as a negative one
  match ttl with
  | none => write none
  | some n =>
    match now.after (Signed64.ofUnsigned n) with
    | .ok t => write (some t)
    | .failed e => (.failed e, s)
    | .crashed c => (.crashed c, s)

/-- The members of a set with their scores. -/
def members (s : Store) (set : String) : Table String Int := s.sets.getD set .empty

/-- The score of a member, zero where it has none. -/
def getScore (s : Store) (set member : String) : Int := (s.members set).getD member 0

/-- Gives a member a score. -/
def setScore (s : Store) (set member : String) (value : Int) : Store :=
  { s with sets := s.sets.set set ((s.members set).set member value) }

/-- Adds to a score; a sum beyond the range crashes and changes nothing. -/
def incrScore (s : Store) (set member : String) (delta : Int) : Outcome Int × Store :=
  match Signed64.add? (s.getScore set member) delta with
  | some sum => (.ok sum, s.setScore set member sum)
  | none => (.crashed .addition, s)

/-- Whether a member comes before another: by score, then by name. -/
def before (a b : String × Int) : Bool :=
  decide (a.2 < b.2) || (a.2 = b.2 && (compare a.1 b.1).isLE)

/-- The members of a set whose score is at least `low` and below `high`, by score and then by
name. -/
def rangeByScore (s : Store) (set : String) (low : Int) (high : Option Int) : List String :=
  let within (p : String × Int) : Bool :=
    decide (low ≤ p.2) && match high with
      | some h => decide (p.2 < h)
      | none => true
  (((s.members set).entries.filter within).mergeSort before).map (·.1)

/-- Removes a member from a set. -/
def removeMember (s : Store) (set member : String) : Store :=
  match s.sets.get? set with
  | some ms => { s with sets := s.sets.set set (ms.erase member) }
  | none => s

/-- Answers a call at an instant. -/
def serve (now : Instant) : (c : StoreCall) → Store → Outcome c.Reply × Store
  | .getString key, s => (.ok (s.getString now key), s)
  | .setString key value ttl, s => s.setString now key value ttl
  | .getScore set member, s => (.ok (s.getScore set member), s)
  | .setScore set member value, s => (.ok (), s.setScore set member value)
  | .incrScore set member delta, s => s.incrScore set member delta
  | .rangeByScore set low high, s => (.ok (s.rangeByScore set low high), s)
  | .removeMember set member, s => (.ok (), s.removeMember set member)

/-- Setting a score changes one set only. -/
theorem members_setScore (s : Store) (set member set' : String) (value : Int) :
    (s.setScore set member value).members set' =
      if set' = set then (s.members set).set member value else s.members set' := by
  simp only [members, setScore, Table.getD, Table.get?_set, Table.compare_eq_iff]
  split <;> simp_all

/-- Setting a score changes the score of one member of one set only. -/
theorem getScore_setScore (s : Store) (set member set' member' : String) (value : Int) :
    (s.setScore set member value).getScore set' member' =
      if set' = set ∧ member' = member then value else s.getScore set' member' := by
  simp only [getScore, members_setScore]
  by_cases hs : set' = set
  · subst hs
    by_cases hm : member' = member
    · subst hm
      simp [Table.getD]
    · simp [Table.getD, hm, Table.get?_set_of_ne _ _ hm]
  · simp [hs]

/-- Removing a member changes its score in one set only, to zero. -/
theorem getScore_removeMember (s : Store) (set member set' member' : String) :
    (s.removeMember set member).getScore set' member' =
      if set' = set ∧ member' = member then 0 else s.getScore set' member' := by
  unfold removeMember
  cases h : s.sets.get? set with
  | none =>
      by_cases he : set' = set ∧ member' = member
      · rw [he.1]
        simp [getScore, members, Table.getD, h, he]
      · simp [he]
  | some ms =>
      by_cases hs : set' = set
      · subst hs
        by_cases hm : member' = member
        · subst hm
          simp [getScore, members, Table.getD]
        · simp [getScore, members, Table.getD, h, hm, Table.get?_erase_of_ne _ hm]
      · simp [getScore, members, Table.getD, hs, Table.get?_set_of_ne _ _ hs]

end Store

end Presence
