import Presence.Proofs.Evaluation

/-!
# Where accrued time is kept

The text of an alert range that stands in the presence store names a bucket of the index, and a
user has accrued time in this bucket only (`Service.Placed`). Main statements: the writes of the
operations keep users placed (`Service.placed_cacheRange`, `Service.placed_putScore`), and after the
alert range of a user was asked for it stands in the presence store
(`Service.resolved_cached`).
-/

set_option autoImplicit false

namespace Presence

namespace Table

variable {κ : Type} [Ord κ]

/-- The keys of a table that was made from a list are the members of the list. -/
theorem mem_keys_ofList [Std.TransOrd κ] [Std.LawfulEqOrd κ] {l : List κ} {k : κ} :
    k ∈ (ofList (l.map fun k => (k, ()))).keys ↔ k ∈ l := by
  have hmem (t : Table κ Unit) : k ∈ t.keys ↔ t.get? k = some () := by
    unfold keys
    rw [get?_eq_some_iff, List.mem_map]
    exact ⟨fun ⟨p, hp, e⟩ => e ▸ hp, fun h => ⟨_, h, rfl⟩⟩
  -- what is in the table or still to be written will be in it
  have hfold : ∀ (l : List κ) (t : Table κ Unit),
      (l.foldl (fun t k => t.set k ()) t).get? k = some () ↔ k ∈ l ∨ t.get? k = some () := by
    intro l
    induction l with
    | nil => simp
    | cons c rest ih =>
        intro t
        rw [List.foldl_cons, ih, get?_set, List.mem_cons]
        by_cases hc : k = c
        · simp [hc]
        · simp [hc]
  rw [hmem]
  unfold ofList
  rw [List.foldl_map, hfold]
  simp

end Table

namespace Store

theorem members_removeMember_get? (t : Store) (set member set' member' : String) :
    ((t.removeMember set member).members set').get? member' =
      if set' = set ∧ member' = member then none else (t.members set').get? member' := by
  unfold removeMember
  cases h : t.sets.get? set with
  | none =>
      by_cases he : set' = set ∧ member' = member
      · rw [if_pos he, he.1]
        simp only [members, Table.getD, h, Option.getD_none, Table.get?_empty]
      · rw [if_neg he]
  | some ms =>
      by_cases hs : set' = set
      · subst hs
        simp only [members, Table.getD, Table.get?_set_self, h, Option.getD_some, true_and]
        by_cases hm : member' = member
        · subst hm
          rw [if_pos rfl, Table.get?_erase_self]
        · rw [if_neg hm, Table.get?_erase_of_ne _ hm]
      · rw [if_neg fun e => hs e.1]
        simp only [members, Table.getD, Table.get?_set_of_ne _ _ hs]

theorem members_setScore_get? (t : Store) (set member set' member' : String) (value : Int) :
    ((t.setScore set member value).members set').get? member' =
      if set' = set ∧ member' = member then some value else (t.members set').get? member' := by
  rw [members_setScore]
  by_cases hs : set' = set
  · subst hs
    by_cases hm : member' = member
    · subst hm
      rw [if_pos rfl, Table.get?_set_self, if_pos ⟨rfl, rfl⟩]
    · rw [if_pos rfl, Table.get?_set_of_ne _ _ hm, if_neg fun e => hm e.2]
  · rw [if_neg hs, if_neg fun e => hs e.1]

theorem getScore_eq (t : Store) (set member : String) :
    t.getScore set member = ((t.members set).get? member).getD 0 := rfl

end Store

namespace Service

variable (s : Service) {m m' : Memory} {user : String}

/-- The score of a user in a bucket, if the user has one there. -/
def held? (m : Memory) (bucket : Int) (user : String) : Option Int :=
  (m.store.members (s.keys.accrualSet bucket)).get? user

/-- The text of the alert range of a user in the presence store, if there is one. -/
def rangeText? (m : Memory) (user : String) : Option StoredText :=
  m.store.strings.get? (s.keys.alertRange user)

/-- The score of a bucket in the index, if it is listed there. -/
def listed? (m : Memory) (bucket : Int) : Option Int :=
  (m.store.members s.keys.bucketIndex).get? (toString bucket)

/-- What the presence store holds of a user is in order. -/
structure PlacedFor (m : Memory) (user : String) : Prop where
  cached : ∀ e, s.rangeText? m user = some e →
    ∃ r, 0 < r ∧ Signed64.Fits r ∧ e = ⟨toString r, none⟩ ∧ s.listed? m r = some r
  held : ∀ b x, s.held? m b user = some x →
    0 ≤ x ∧ s.rangeText? m user = some ⟨toString b, none⟩

/-- What the presence store holds of all users is in order. -/
def Placed (m : Memory) : Prop := ∀ user, s.PlacedFor m user

/-- The alert ranges that are not chosen by a request are numbers of 64 bits, and the default one is
positive. -/
structure RangesFit (m : Memory) : Prop where
  default_pos : 0 < s.defaultRange
  default_fits : Signed64.Fits s.defaultRange
  profiles : ∀ u r, m.profiles.get? u = some r → Signed64.Fits r

variable {s}

theorem RangesFit.of_profiles (h : s.RangesFit m) (e : m'.profiles = m.profiles) :
    s.RangesFit m' := ⟨h.default_pos, h.default_fits, e ▸ h.profiles⟩

theorem RangesFit.chosenRange (h : s.RangesFit m) (user : String) :
    0 < s.chosenRange user m ∧ Signed64.Fits (s.chosenRange user m) := by
  unfold Service.chosenRange
  cases hp : m.profiles.get? user with
  | none => exact ⟨h.default_pos, h.default_fits⟩
  | some r =>
      -- a range in the profile that is not positive is passed over
      by_cases hr : 0 < r
      · simp only [Option.filter, hr, decide_true, if_true, Option.getD_some, true_and]
        exact h.profiles user r hp
      · simp only [Option.filter, hr, decide_false, Bool.false_eq_true, if_false, Option.getD_none]
        exact ⟨h.default_pos, h.default_fits⟩

/-- Only the text of the alert range, the scores and the index matter. -/
theorem PlacedFor.of_eq (h : s.PlacedFor m user)
    (ht : s.rangeText? m' user = s.rangeText? m user)
    (hh : ∀ b, s.held? m' b user = s.held? m b user)
    (hl : ∀ r, s.listed? m r = some r → s.listed? m' r = some r) : s.PlacedFor m' user := by
  constructor
  · intro e he
    obtain ⟨r, h0, hf, hr, hi⟩ := h.cached e (ht ▸ he)
    exact ⟨r, h0, hf, hr, hl r hi⟩
  · intro b x hx
    rw [ht]
    exact h.held b x (hh b ▸ hx)

/-- The score of a user who has none in a bucket is zero. -/
theorem getScore_eq_zero {b : Int} (h : ∀ x, s.held? m b user ≠ some x) :
    m.store.getScore (s.keys.accrualSet b) user = 0 := by
  rw [Store.getScore_eq]
  cases hx : (m.store.members (s.keys.accrualSet b)).get? user with
  | none => rfl
  | some x => exact absurd hx (h x)

/-- A score of a user who is placed is not negative. -/
theorem PlacedFor.getScore_nonneg (h : s.PlacedFor m user) (b : Int) :
    0 ≤ m.store.getScore (s.keys.accrualSet b) user := by
  rw [Store.getScore_eq]
  cases hx : (m.store.members (s.keys.accrualSet b)).get? user with
  | none => exact Int.le_refl 0
  | some x => exact (h.held b x hx).1

/-- A user has scores only in the bucket that the stored alert range names. -/
theorem PlacedFor.eq_of_held (h : s.PlacedFor m user) {b c x : Int}
    (hc : s.rangeText? m user = some ⟨toString c, none⟩) (hx : s.held? m b user = some x) :
    b = c := by
  have hb := (h.held b x hx).2
  rw [hc, Option.some.injEq, StoredText.mk.injEq] at hb
  exact (Text.toString_inj.1 hb.1).symm

/-! ## Reading the alert range -/

theorem cached?_of_rangeText? {r : Int} (h : s.rangeText? m user = some ⟨toString r, none⟩)
    (h0 : 0 < r) (hf : Signed64.Fits r) : s.cached? user m = some r := by
  unfold cached? Store.getString
  rw [show m.store.strings.get? (s.keys.alertRange user) = _ from h]
  exact cachedRange?_toString h0 hf

theorem cached?_of_rangeText?_none (h : s.rangeText? m user = none) :
    s.cached? user m = none := by
  unfold cached? Store.getString
  rw [show m.store.strings.get? (s.keys.alertRange user) = _ from h]
  rfl

/-- A stored alert range is found, and asking for it changes nothing. -/
theorem PlacedFor.of_rangeText? (h : s.PlacedFor m user) {e : StoredText}
    (he : s.rangeText? m user = some e) :
    s.resolved user m = m ∧ 0 < s.rangeIn user m ∧ Signed64.Fits (s.rangeIn user m) ∧
      e = ⟨toString (s.rangeIn user m), none⟩ := by
  obtain ⟨r, h0, hf, rfl, -⟩ := h.cached e he
  have hc := cached?_of_rangeText? he h0 hf
  have hr : s.rangeIn user m = r := by
    unfold rangeIn
    rw [hc, Option.getD_some]
  refine ⟨?_, hr ▸ h0, hr ▸ hf, by rw [hr]⟩
  unfold resolved
  rw [hc]

theorem rangeIn_of_rangeText?_none (h : s.rangeText? m user = none) :
    s.rangeIn user m = s.chosenRange user m ∧
      s.resolved user m = s.cacheRange user m (s.chosenRange user m) := by
  have hc := cached?_of_rangeText?_none h
  constructor
  · unfold rangeIn
    rw [hc, Option.getD_none]
  · unfold resolved
    rw [hc]

/-! ## Writes -/

section Writes

variable (s) (m) {b : Int} {x : Int}

theorem rangeText?_putString_alertRange (u user : String) (text : String) :
    s.rangeText? (m.putString (s.keys.alertRange u) text none) user =
      if user = u then some ⟨text, none⟩ else s.rangeText? m user := by
  unfold rangeText? Memory.putString
  by_cases h : user = u
  · subst h
    rw [if_pos rfl, Table.get?_set_self]
  · rw [if_neg h, Table.get?_set_of_ne _ _ fun e => h (Keys.alertRange_inj.1 e)]

theorem rangeText?_putString_sessionMarker (u user text : String) (expires : Option Instant) :
    s.rangeText? (m.putString (s.keys.sessionMarker u) text expires) user =
      s.rangeText? m user := by
  unfold rangeText? Memory.putString
  rw [Table.get?_set_of_ne _ _ (Keys.sessionMarker_ne_alertRange u user).symm]

theorem rangeText?_dropMember (set u user : String) :
    s.rangeText? (m.dropMember set u) user = s.rangeText? m user := by
  unfold rangeText? Memory.dropMember Store.removeMember
  dsimp only
  cases m.store.sets.get? set <;> rfl

theorem held?_putScore (bucket : Int) (u user : String) :
    s.held? (m.putScore (s.keys.accrualSet b) u x) bucket user =
      if bucket = b ∧ user = u then some x else s.held? m bucket user := by
  unfold held? Memory.putScore
  rw [Store.members_setScore_get?]
  simp only [Keys.accrualSet_inj]

theorem held?_dropMember (bucket : Int) (u user : String) :
    s.held? (m.dropMember (s.keys.accrualSet b) u) bucket user =
      if bucket = b ∧ user = u then none else s.held? m bucket user := by
  unfold held? Memory.dropMember
  rw [Store.members_removeMember_get?]
  simp only [Keys.accrualSet_inj]

theorem held?_putScore_bucketIndex (bucket : Int) (member user : String) :
    s.held? (m.putScore s.keys.bucketIndex member x) bucket user = s.held? m bucket user := by
  unfold held? Memory.putScore
  rw [Store.members_setScore_get?, if_neg fun e => Keys.bucketIndex_ne_accrualSet bucket e.1.symm]

theorem listed?_putScore_accrualSet (bucket : Int) (u : String) :
    s.listed? (m.putScore (s.keys.accrualSet b) u x) bucket = s.listed? m bucket := by
  unfold listed? Memory.putScore
  rw [Store.members_setScore_get?, if_neg fun e => Keys.bucketIndex_ne_accrualSet b e.1]

theorem listed?_dropMember_accrualSet (bucket : Int) (u : String) :
    s.listed? (m.dropMember (s.keys.accrualSet b) u) bucket = s.listed? m bucket := by
  unfold listed? Memory.dropMember
  rw [Store.members_removeMember_get?, if_neg fun e => Keys.bucketIndex_ne_accrualSet b e.1]

theorem listed?_putScore_bucketIndex (bucket range : Int) :
    s.listed? (m.putScore s.keys.bucketIndex (toString range) range) bucket =
      if bucket = range then some range else s.listed? m bucket := by
  unfold listed? Memory.putScore
  rw [Store.members_setScore_get?]
  simp only [Text.toString_inj, true_and]

/-! Storing an alert range, as seen by the readings above. -/

theorem rangeText?_cacheRange (u user : String) (range : Int) :
    s.rangeText? (s.cacheRange u m range) user =
      if user = u then some ⟨toString range, none⟩ else s.rangeText? m user :=
  s.rangeText?_putString_alertRange m u user (toString range)

theorem held?_cacheRange (u user : String) (range bucket : Int) :
    s.held? (s.cacheRange u m range) bucket user = s.held? m bucket user :=
  s.held?_putScore_bucketIndex (m.putString (s.keys.alertRange u) (toString range) none) bucket _ user

theorem listed?_cacheRange (u : String) (range bucket : Int) :
    s.listed? (s.cacheRange u m range) bucket =
      if bucket = range then some range else s.listed? m bucket :=
  s.listed?_putScore_bucketIndex (m.putString (s.keys.alertRange u) (toString range) none) bucket
    range

end Writes

/-- A user whose score stands in one bucket at most is placed by storing this bucket. -/
theorem placed_cacheRange {range : Int} (h0 : 0 < range) (hf : Signed64.Fits range)
    (ho : ∀ v, v ≠ user → s.PlacedFor m v)
    (hu : ∀ b x, s.held? m b user = some x → b = range ∧ 0 ≤ x) :
    s.Placed (s.cacheRange user m range) := by
  intro v
  by_cases hv : v = user
  · subst hv
    constructor
    · intro e he
      rw [rangeText?_cacheRange, if_pos rfl] at he
      cases he
      exact ⟨range, h0, hf, rfl, by rw [listed?_cacheRange, if_pos rfl]⟩
    · intro b x hx
      rw [held?_cacheRange] at hx
      obtain ⟨rfl, h⟩ := hu b x hx
      exact ⟨h, by rw [rangeText?_cacheRange, if_pos rfl]⟩
  · refine (ho v hv).of_eq ?_ ?_ ?_
    · rw [rangeText?_cacheRange, if_neg hv]
    · intro b
      exact s.held?_cacheRange m user v range b
    · intro r hr
      rw [listed?_cacheRange]
      split
      · rename_i e
        rw [e]
      · exact hr

/-- A score may be written in the bucket of the user. -/
theorem placed_putScore {b x : Int} (h : s.Placed m) (h0 : 0 ≤ x)
    (hb : s.rangeText? m user = some ⟨toString b, none⟩) :
    s.Placed (m.putScore (s.keys.accrualSet b) user x) := by
  intro v
  by_cases hv : v = user
  · subst hv
    constructor
    · intro e he
      obtain ⟨r, hr0, hrf, hr, hl⟩ := (h v).cached e he
      exact ⟨r, hr0, hrf, hr, by rw [listed?_putScore_accrualSet]; exact hl⟩
    · intro b' x' hx
      rw [held?_putScore] at hx
      split at hx
      · rename_i e
        cases hx
        exact ⟨h0, e.1 ▸ hb⟩
      · exact (h v).held b' x' hx
  · refine (h v).of_eq rfl ?_ ?_
    · intro b'
      rw [held?_putScore, if_neg fun e => hv e.2]
    · intro r hr
      rw [listed?_putScore_accrualSet]
      exact hr

/-- A score may be removed. -/
theorem placed_dropMember (h : s.Placed m) (b : Int) (user : String) :
    s.Placed (m.dropMember (s.keys.accrualSet b) user) := by
  intro v
  constructor
  · intro e he
    rw [rangeText?_dropMember] at he
    obtain ⟨r, hr0, hrf, hr, hl⟩ := (h v).cached e he
    exact ⟨r, hr0, hrf, hr, by rw [listed?_dropMember_accrualSet]; exact hl⟩
  · intro b' x hx
    rw [rangeText?_dropMember]
    rw [held?_dropMember] at hx
    split at hx
    · cases hx
    · exact (h v).held b' x hx

theorem placed_putString_sessionMarker (h : s.Placed m) (user text : String)
    (expires : Option Instant) :
    s.Placed (m.putString (s.keys.sessionMarker user) text expires) := fun v =>
  (h v).of_eq (s.rangeText?_putString_sessionMarker m user v text expires) (fun _ => rfl)
    fun _ hr => hr

/-- Only the presence store matters. -/
theorem Placed.of_store (h : s.Placed m) (e : m'.store = m.store) : s.Placed m' := by
  intro v
  refine (h v).of_eq ?_ ?_ ?_
  · unfold rangeText?
    rw [e]
  · intro b
    unfold held?
    rw [e]
  · intro r hr
    unfold listed?
    rw [e]
    exact hr

/-! ## After the alert range was asked for -/

/-- The alert range stands in the store after it was asked for. -/
theorem resolved_cached (h : s.PlacedFor m user) (hr : s.RangesFit m) :
    s.rangeText? (s.resolved user m) user = some ⟨toString (s.rangeIn user m), none⟩ ∧
      0 < s.rangeIn user m ∧ Signed64.Fits (s.rangeIn user m) := by
  cases ht : s.rangeText? m user with
  | some e =>
      -- the range was stored before
      obtain ⟨hm, h0, hf, he⟩ := h.of_rangeText? ht
      exact ⟨by rw [hm, ht, he], h0, hf⟩
  | none =>
      -- the range is stored now
      obtain ⟨h1, h2⟩ := rangeIn_of_rangeText?_none ht
      obtain ⟨h0, hf⟩ := hr.chosenRange user
      rw [h1, h2]
      exact ⟨by rw [rangeText?_cacheRange, if_pos rfl], h0, hf⟩

theorem placed_resolved (h : s.Placed m) (hr : s.RangesFit m) (user : String) :
    s.Placed (s.resolved user m) := by
  cases ht : s.rangeText? m user with
  | some e =>
      obtain ⟨hm, -⟩ := (h user).of_rangeText? ht
      rw [hm]
      exact h
  | none =>
      obtain ⟨h0, hf⟩ := hr.chosenRange user
      rw [(rangeIn_of_rangeText?_none ht).2]
      refine placed_cacheRange h0 hf (fun v _ => h v) fun b x hx => ?_
      -- a user without a stored range has no score
      have hc := ((h user).held b x hx).2
      rw [ht] at hc
      cases hc

/-- A user has scores only in the bucket that asking for the alert range yields. -/
theorem PlacedFor.eq_rangeIn (h : s.PlacedFor m user) {b x : Int}
    (hx : s.held? m b user = some x) : b = s.rangeIn user m := by
  obtain ⟨-, hb⟩ := h.held b x hx
  obtain ⟨-, -, -, he⟩ := h.of_rangeText? hb
  exact h.eq_of_held (hb.trans (congrArg some he)) hx

/-- Scores stay as they are when the alert range is asked for. -/
theorem held?_resolved (m : Memory) (u user : String) (b : Int) :
    s.held? (s.resolved u m) b user = s.held? m b user := by
  rcases s.resolved_eq u (m := m) with h | h
  · rw [h]
  · rw [h, held?_cacheRange]

theorem getScore_resolved (m : Memory) (u user : String) (b : Int) :
    (s.resolved u m).store.getScore (s.keys.accrualSet b) user =
      m.store.getScore (s.keys.accrualSet b) user := by
  rw [Store.getScore_eq, Store.getScore_eq]
  exact congrArg (fun o => o.getD 0) (s.held?_resolved m u user b)

/-! ## The list of buckets -/

/-- A positive bucket of the index is among the known ones. -/
theorem mem_knownBuckets {b : Int} (h0 : 0 < b) (hf : Signed64.Fits b)
    (hl : s.listed? m b = some b) :
    b ∈ s.bucketsOf (m.store.rangeByScore s.keys.bucketIndex 1 none) := by
  refine Table.mem_keys_ofList.2 (List.mem_cons_of_mem _ ?_)
  refine List.mem_filter.2 ⟨?_, decide_eq_true h0⟩
  refine List.mem_filterMap.2 ⟨toString b, ?_, Text.readSigned64?_toString hf⟩
  have hm : (toString b, b) ∈ (m.store.members s.keys.bucketIndex).entries :=
    Table.get?_eq_some_iff.1 hl
  -- a bucket is listed with itself as its score, which the index is asked for
  have hw : decide (1 ≤ b) = true := decide_eq_true (by omega)
  exact List.mem_map.2 ⟨(toString b, b), List.mem_mergeSort.2 (List.mem_filter.2 ⟨hm, by simp [hw]⟩),
    rfl⟩

/-- The bucket that the stored alert range names is among the known ones. -/
theorem PlacedFor.mem_bucketsOf (h : s.PlacedFor m user) {b : Int}
    (hb : s.rangeText? m user = some ⟨toString b, none⟩) :
    b ∈ s.bucketsOf (m.store.rangeByScore s.keys.bucketIndex 1 none) := by
  obtain ⟨r, h0, hf, hr, hl⟩ := h.cached _ hb
  rw [StoredText.mk.injEq] at hr
  rw [Text.toString_inj.1 hr.1]
  exact mem_knownBuckets h0 hf hl

end Service

end Presence
