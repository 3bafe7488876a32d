import Mathlib.Logic.Function.Basic
import Presence.Keys
import Presence.Proofs.Decimal

/-!
# Keys are apart

The keys of different users, jobs, buckets and purposes differ, whatever text an id is, so that a
write to one of them leaves the others alone. No family of keys begins like another one, and within
a family the keys differ after that beginning. Main statements: `ofNamespace_keyFor_inj`, keys are
equal exactly if they are for the same purpose, and `bucket?_accrualSet` and `bucket?_eq_some_iff`,
the bucket of an accrual set can be told from its name.
-/

set_option autoImplicit false

namespace Presence.Keys

variable {k : Keys}

@[simp]
theorem key_inj {a b : String} : k.key a = k.key b ↔ a = b := by
  unfold key
  cases k.space with
  | none => exact Iff.rfl
  | some s => exact String.append_right_inj (s ++ ":")

/-! ## What a key is for -/

/-- What something is kept for in the presence store. -/
inductive Purpose where
  | marker (user : String)
  | range (user : String)
  | switch (job : String)
  | scores (bucket : Int)
  | buckets
  deriving Repr, DecidableEq

/-- The key of a purpose. -/
def keyFor (k : Keys) : Purpose → String
  | .marker user => k.sessionMarker user
  | .range user => k.alertRange user
  | .switch job => k.jobSwitch job
  | .scores bucket => k.accrualSet bucket
  | .buckets => k.bucketIndex

/-- The keys that begin with one word. The accrual sets and the index of the buckets share one. -/
inductive Family where
  | marker
  | range
  | switch
  | online
  deriving Repr, DecidableEq

/-- How the keys of a family begin, after the namespace. -/
def Family.word : Family → String
  | marker => "last_online:"
  | range => "user_alert_range:"
  | switch => "job_active:"
  | online => "online_users:"

def Purpose.family : Purpose → Family
  | marker _ => .marker
  | range _ => .range
  | switch _ => .switch
  | scores _ => .online
  | buckets => .online

/-- What follows the word of the family in a key. -/
def Purpose.ending : Purpose → String
  | marker user => user
  | range user => user
  | switch job => job
  | scores bucket => toString bucket
  | buckets => "buckets"

theorem keyFor_eq (p : Purpose) : k.keyFor p = k.key (p.family.word ++ p.ending) := by
  cases p with
  | buckets => exact congrArg k.key (by decide)
  | _ => rfl

/-- No family begins like another one. -/
theorem Family.eq_of_isPrefix {f g : Family} (h : f.word.toList <+: g.word.toList) : f = g := by
  revert h
  cases f <;> cases g <;> decide

theorem Family.eq_of_append_eq {f g : Family} {s t : String} (h : f.word ++ s = g.word ++ t) :
    f = g := by
  have hlists : f.word.toList ++ s.toList = g.word.toList ++ t.toList := by
    rw [← String.toList_append, h, String.toList_append]
  have hf : f.word.toList <+: f.word.toList ++ s.toList := List.prefix_append ..
  have hg : g.word.toList <+: f.word.toList ++ s.toList := hlists ▸ List.prefix_append ..
  -- two beginnings of one text: the shorter begins the longer
  rcases List.prefix_or_prefix_of_prefix hf hg with hfg | hgf
  · exact eq_of_isPrefix hfg
  · exact (eq_of_isPrefix hgf).symm

/-- No bucket is written as the index ends. -/
theorem toString_ne_buckets (b : Int) : toString b ≠ "buckets" := by
  intro h
  have hread := Text.signed?_toString b
  have hnone : Text.signed? "buckets".toList = none := by decide
  rw [h, hnone] at hread
  cases hread

theorem Purpose.eq_of_ending_eq {p q : Purpose} (hfamily : p.family = q.family)
    (hending : p.ending = q.ending) : p = q := by
  cases p with
  | marker u =>
      cases q with
      | marker v => exact congrArg marker hending
      | _ => cases hfamily
  | range u =>
      cases q with
      | range v => exact congrArg range hending
      | _ => cases hfamily
  | switch i =>
      cases q with
      | switch j => exact congrArg switch hending
      | _ => cases hfamily
  | scores b =>
      cases q with
      | scores c => exact congrArg scores (Text.toString_inj.1 hending)
      | buckets => exact absurd hending (toString_ne_buckets b)
      | _ => cases hfamily
  | buckets =>
      cases q with
      | buckets => rfl
      | scores c => exact absurd hending.symm (toString_ne_buckets c)
      | _ => cases hfamily

/-- A key is for one purpose only. -/
theorem keyFor_injective (k : Keys) : Function.Injective k.keyFor := by
  intro p q h
  rw [keyFor_eq, keyFor_eq, key_inj] at h
  have hfamily : p.family = q.family := Family.eq_of_append_eq h
  rw [hfamily, String.append_right_inj] at h
  exact Purpose.eq_of_ending_eq hfamily h

/-- In every namespace two keys are equal exactly if they are for the same purpose. -/
theorem ofNamespace_keyFor_inj (space : Option String) (p q : Purpose) :
    (ofNamespace space).keyFor p = (ofNamespace space).keyFor q ↔ p = q :=
  (keyFor_injective (ofNamespace space)).eq_iff

-- Keys of two namespaces can be equal.
example : (ofNamespace (some "a")).keyFor (.marker "last_online:b") =
    (ofNamespace (some "a:last_online")).keyFor (.marker "b") := by
  decide

/-! ## Keys of two purposes -/

@[simp]
theorem sessionMarker_inj {u v : String} : k.sessionMarker u = k.sessionMarker v ↔ u = v := by
  simp only [sessionMarker, key_inj, String.append_right_inj]

@[simp]
theorem alertRange_inj {u v : String} : k.alertRange u = k.alertRange v ↔ u = v := by
  simp only [alertRange, key_inj, String.append_right_inj]

@[simp]
theorem accrualSet_inj {a b : Int} : k.accrualSet a = k.accrualSet b ↔ a = b := by
  simp only [accrualSet, key_inj, String.append_right_inj, Text.toString_inj]

@[simp]
theorem sessionMarker_ne_alertRange (u v : String) : k.sessionMarker u ≠ k.alertRange v := by
  intro h
  cases @keyFor_injective k (.marker u) (.range v) h

/-- The switch of a job is no text that is kept of a user. -/
theorem jobSwitch_ne (job user : String) :
    k.jobSwitch job ≠ k.sessionMarker user ∧ k.jobSwitch job ≠ k.alertRange user := by
  constructor
  · intro h
    cases @keyFor_injective k (.switch job) (.marker user) h
  · intro h
    cases @keyFor_injective k (.switch job) (.range user) h

@[simp]
theorem bucketIndex_ne_accrualSet (b : Int) : k.bucketIndex ≠ k.accrualSet b := by
  intro h
  cases @keyFor_injective k .buckets (.scores b) h

/-! ## The bucket of an accrual set -/

/-- The bucket whose accrued time is kept under a name. -/
def bucket? (k : Keys) (name : String) : Option Int :=
  -- a number is accepted only as it is written
  (Text.signed? (name.toList.drop (k.key "online_users:").toList.length)).filter fun b =>
    k.accrualSet b = name

theorem accrualSet_eq (b : Int) :
    k.accrualSet b = k.key "online_users:" ++ toString b := by
  unfold accrualSet key
  cases k.space with
  | none => rfl
  | some s => simp only [String.append_assoc]

@[simp]
theorem bucket?_accrualSet (b : Int) : k.bucket? (k.accrualSet b) = some b := by
  have h : (k.accrualSet b).toList.drop (k.key "online_users:").toList.length =
      (toString b).toList := by
    rw [accrualSet_eq, String.toList_append, List.drop_left]
  rw [bucket?, h, Text.signed?_toString]
  simp [Option.filter]

/-- A set keeps the accrued time of a bucket exactly when it is named after the bucket. -/
theorem bucket?_eq_some_iff {name : String} {b : Int} :
    k.bucket? name = some b ↔ name = k.accrualSet b := by
  constructor
  · intro h
    simp only [bucket?, Option.filter_eq_some_iff, decide_eq_true_eq] at h
    exact h.2.symm
  · rintro rfl
    exact bucket?_accrualSet b

@[simp]
theorem bucket?_bucketIndex : k.bucket? k.bucketIndex = none := by
  cases h : k.bucket? k.bucketIndex with
  | none => rfl
  | some b => exact absurd (bucket?_eq_some_iff.1 h) (bucketIndex_ne_accrualSet b)

end Presence.Keys
