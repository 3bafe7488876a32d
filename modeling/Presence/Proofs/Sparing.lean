import Presence.Proofs.UserCalls

/-!
# Calls that leave a user alone

Most calls change nothing of what is kept of a user: they only read, or they write what is kept of
others, the alert range of the user or the index. Main statements: such a call leaves the sums and
the marker of the user as they are (`Memory.alike_serve`), and the operations on other users make no
other calls (`Service.spares_perform`).
-/

set_option autoImplicit false

namespace Presence

/-- What a call cannot change of a user: the marker, the accrued seconds and the spent seconds. -/
def Call.Spares (k : Keys) (user : String) : Call → Prop
  | .store (.setString key _ _) => key ≠ k.sessionMarker user
  | .store (.setScore set member _) => k.bucket? set = none ∨ user ≠ member
  | .store (.incrScore set member _) => k.bucket? set = none ∨ user ≠ member
  | .store (.removeMember _ member) => user ≠ member
  | .ledger (.add u _ _) => user ≠ u
  | _ => True

namespace Memory

/-- Two surroundings that hold the same of a user, at the same time. -/
structure Alike (k : Keys) (user : String) (m m' : Memory) : Prop where
  accrued : m'.store.accrued k user = m.store.accrued k user
  score : ∀ b, m'.store.getScore (k.accrualSet b) user = m.store.getScore (k.accrualSet b) user
  spent : m'.ledger.spent user = m.ledger.spent user
  marker : m'.store.strings.get? (k.sessionMarker user) =
    m.store.strings.get? (k.sessionMarker user)
  clock : m'.clock = m.clock

variable {k : Keys} {user : String}

theorem Alike.refl (m : Memory) : Alike k user m m := ⟨rfl, fun _ => rfl, rfl, rfl, rfl⟩

theorem Alike.trans {m m' m'' : Memory} (h : Alike k user m m') (h' : Alike k user m' m'') :
    Alike k user m m'' :=
  ⟨h'.accrued.trans h.accrued, fun b => (h'.score b).trans (h.score b), h'.spent.trans h.spent,
    h'.marker.trans h.marker, h'.clock.trans h.clock⟩

theorem alike_setScore {set member : String} (h : k.bucket? set = none ∨ user ≠ member)
    (value : Int) (m : Memory) : Alike k user m (m.putScore set member value) := by
  have hne : ∀ b, ¬ (k.accrualSet b = set ∧ user = member) := by
    rintro b ⟨rfl, hu⟩
    rcases h with h | h
    · rw [Keys.bucket?_accrualSet] at h
      cases h
    · exact h hu
  refine ⟨?_, fun b => ?_, rfl, rfl, rfl⟩
  · show (m.store.setScore set member value).accrued k user = _
    cases hb : k.bucket? set with
    | none => exact m.store.accrued_setScore_of_bucket?_eq_none hb member user value
    | some b =>
        -- an accrual set, where another user has a score
        have hs := Keys.bucket?_eq_some_iff.1 hb
        have hu : user ≠ member := fun e => hne b ⟨hs.symm, e⟩
        rw [hs, Store.accrued_setScore, if_neg hu, Int.add_zero]
  · show (m.store.setScore set member value).getScore _ _ = _
    rw [Store.getScore_setScore, if_neg (hne b)]

theorem alike_removeMember {member : String} (h : user ≠ member) (set : String) (m : Memory) :
    Alike k user m (m.dropMember set member) := by
  refine ⟨m.store.accrued_removeMember_of_ne h set, fun b => ?_, rfl, ?_, rfl⟩
  · show (m.store.removeMember set member).getScore _ _ = _
    rw [Store.getScore_removeMember, if_neg fun e => h e.2]
  · show (m.store.removeMember set member).strings.get? _ = _
    unfold Store.removeMember
    cases m.store.sets.get? set <;> rfl

theorem alike_addSpent {u : String} (h : user ≠ u) (day : String) (n : Int) (m : Memory) :
    Alike k user m { m with ledger := (m.ledger.add u day n).2 } := by
  refine ⟨rfl, fun _ => rfl, ?_, rfl, rfl⟩
  show (m.ledger.add u day n).2.spent user = m.ledger.spent user
  by_cases hf : Signed64.Fits (m.ledger.spentOn u day + n)
  · rw [Ledger.spent_add hf, if_neg h, Int.add_zero]
  · rw [Ledger.add_of_not_fits _ _ _ _ hf]

theorem alike_serve {c : Call} (h : c.Spares k user) (m : Memory) :
    Alike k user m (serve c m).2 := by
  cases c with
  | store c =>
      cases c with
      | getString key => exact .refl m
      | getScore set member => exact .refl m
      | rangeByScore set low high => exact .refl m
      | setScore set member value => exact alike_setScore h value m
      | removeMember set member => exact alike_removeMember h set m
      | setString key value ttl =>
          -- another text than the marker
          have hs := m.store.setString_facts m.clock.now key value ttl fun e => h e.symm
          refine ⟨?_, fun b => ?_, rfl, hs.2, rfl⟩
          · show (m.store.setString m.clock.now key value ttl).2.accrued k user = _
            unfold Store.accrued
            rw [hs.1]
          · show (m.store.setString m.clock.now key value ttl).2.getScore _ _ = _
            unfold Store.getScore Store.members
            rw [hs.1]
      | incrScore set member delta =>
          rcases m.serve_incrScore set member delta with hr | hr
          · rw [hr]
            exact alike_setScore h _ m
          · rw [hr]
            exact .refl m
  | ledger c =>
      cases c with
      | add u day seconds => exact alike_addSpent h day seconds m
      | find u day => exact .refl m
      | range u first last => exact .refl m
  | profile u => exact .refl m
  | notify n => exact ⟨rfl, fun _ => rfl, rfl, rfl, rfl⟩
  | queue c => exact ⟨rfl, fun _ => rfl, rfl, rfl, rfl⟩
  | now => exact .refl m
  | count c n => exact ⟨rfl, fun _ => rfl, rfl, rfl, rfl⟩
  | enter job => exact ⟨rfl, fun _ => rfl, rfl, rfl, rfl⟩
  | leave job => exact ⟨rfl, fun _ => rfl, rfl, rfl, rfl⟩

end Memory

namespace Service

open Operation Program

variable (s : Service) {user : String}

/-- A program that leaves a user alone. -/
def Spares {α : Type} (s : Service) (user : String) (p : Operation α) : Prop :=
  p.Only fun c => c.Spares s.keys user

variable {s}

theorem spares_of {c : Call} (h : c.Spares s.keys user) : s.Spares user (of c) :=
  ⟨h, fun _ => True.intro⟩

/-- Asking for an alert range leaves the accrued time of all users alone. -/
theorem spares_resolve (v : String) : s.Spares user (s.resolve v) := by
  refine Only.bind (spares_of True.intro) fun text => ?_
  cases cachedRange? text with
  | some r => exact only_pure r
  | none =>
      -- the range is looked up in the profile, stored and listed
      refine Only.bind (Only.attempt (spares_of True.intro)) fun chosen => ?_
      cases chosen with
      | error e => exact only_pure _
      | ok r =>
          refine Only.bind (spares_of (Keys.sessionMarker_ne_alertRange user v).symm) fun _ => ?_
          refine Only.bind (spares_of (.inl Keys.bucket?_bucketIndex)) fun _ => only_pure _

/-- A call of another user leaves a user alone. -/
theorem OwnCall.spares {v : String} {c : Call} (h : s.OwnCall v c) (hne : user ≠ v) :
    c.Spares s.keys user := by
  cases h with
  | any h =>
      cases h with
      | setRange range => exact (Keys.sessionMarker_ne_alertRange user v).symm
      | list bucket => exact .inl Keys.bucket?_bucketIndex
      | reset b => exact .inr hne
      | gain b h => exact .inr hne
      | spend day h => exact hne
      | now => exact True.intro
      | count c n => exact True.intro
      | profile => exact True.intro
      | getMarker => exact True.intro
      | getRange => exact True.intro
      | getScore b => exact True.intro
  | mark h =>
      obtain ⟨text, ttl⟩ := h
      exact fun e => hne (Keys.sessionMarker_inj.1 e).symm
  | move h =>
      cases h with
      | lift b => exact hne
      | drop b seconds => exact .inr hne

/-- The operations on other users leave a user alone. -/
theorem spares_perform {v : String} {r : Request} (hr : r.user? = some v) (hne : user ≠ v) :
    s.Spares user (s.perform r) :=
  (only_perform hr).mono fun _ h => h.spares hne

end Service

end Presence
