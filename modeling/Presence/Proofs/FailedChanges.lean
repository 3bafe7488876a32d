import Presence.Proofs.AlertTargets
import Presence.Proofs.KnownRange
import Presence.Proofs.Refusals

/-!
# Changes of the alert range that fail

A change of the alert range asks for the range, takes the score of the user out of its bucket, adds
it to the other bucket, stores the other range and lists its bucket. If one of these calls fails,
nobody takes back those before it. `Service.Intact` says what should hold all the same: no second is
gone, and the seconds stand in the bucket of the user, which is listed. Main statement:
`Service.failed_change_intact_iff`, after a change that failed this holds exactly if the call that
was refused does not strand the user (`Service.strands`).
-/

set_option autoImplicit false

namespace Presence

open Operation Program

/-- The call is made to the presence store. -/
def Call.IsStore (c : Call) : Prop := ∃ sc, c = .store sc

namespace Service

/-- A user whose accrued time is that of the surroundings before, in the bucket that asking for the
alert range yields, and this bucket is among the known ones from then on. -/
structure Intact (s : Service) (user : String) (m m' : Memory) : Prop where
  accrued : m'.store.accrued s.keys user = m.store.accrued s.keys user
  placed : ∃ b bs, (m'.run (s.resolve user)).1 = .ok b ∧
    (∀ b', 0 < m'.store.getScore (s.keys.accrualSet b') user → b' = b) ∧
    ((m'.run (s.resolve user)).2.run s.knownBuckets).1 = .ok bs ∧ b ∈ bs

/-- A change that ends with this call strands its user: seconds that were taken out of a bucket are
not added to the other one, or seconds stand in the other bucket and its range is not stored, or
the range is stored and its bucket is not in use. -/
def strands (s : Service) (user : String) (range : Int) (m : Memory) (x : Exchange) : Bool :=
  match x.call with
  | .store (.incrScore _ _ n) => 0 < n
  | .store (.setString _ _ _) => s.rangeIn user m ≠ range && 0 < m.store.accrued s.keys user
  | .store (.setScore _ _ b) => b ∉ s.bucketsIn x.before.store
  | _ => false

variable {s : Service} {user : String} {m m' : Memory} {range : Int}

theorem intact_iff : s.Intact user m m' ↔
    m'.store.accrued s.keys user = m.store.accrued s.keys user ∧
      (∀ b, 0 < m'.store.getScore (s.keys.accrualSet b) user → b = s.rangeIn user m') ∧
      s.rangeIn user m' ∈ s.bucketsIn (s.resolved user m').store := by
  constructor
  · rintro ⟨ha, b, bs, hb, hscores, hbs, hmem⟩
    rw [run_resolve] at hb hbs
    rw [run_knownBuckets] at hbs
    cases hb
    cases hbs
    exact ⟨ha, hscores, hmem⟩
  · rintro ⟨ha, hscores, hmem⟩
    refine ⟨ha, s.rangeIn user m', s.bucketsIn (s.resolved user m').store, ?_, hscores, ?_, hmem⟩
    · rw [run_resolve]
    · rw [run_resolve, run_knownBuckets]
      rfl

/-- A user who is placed is intact as long as the accrued time stays. -/
theorem intact_of_placed (hp : s.Placed m') (hr : s.RangesFit m')
    (ha : m'.store.accrued s.keys user = m.store.accrued s.keys user) : s.Intact user m m' := by
  refine intact_iff.2 ⟨ha, fun b hb => ?_, ?_⟩
  · by_contra hne
    have h0 := getScore_eq_zero fun x hx => hne ((hp user).eq_rangeIn hx)
    omega
  · exact (placed_resolved hp hr user user).mem_bucketsOf (resolved_cached (hp user) hr).1

/-- A user whose seconds stand in the bucket of the stored range is intact exactly if this bucket is
in use. -/
theorem intact_iff_mem {b : Int} (hb : s.rangeText? m' user = some ⟨toString b, none⟩)
    (h0 : 0 < b) (hf : Signed64.Fits b)
    (ha : m'.store.accrued s.keys user = m.store.accrued s.keys user)
    (hs : ∀ b', 0 < m'.store.getScore (s.keys.accrualSet b') user → b' = b) :
    s.Intact user m m' ↔ b ∈ s.bucketsIn m'.store := by
  have hc := cached?_of_rangeText? hb h0 hf
  have hrange : s.rangeIn user m' = b := by
    unfold rangeIn
    rw [hc, Option.getD_some]
  have hres : s.resolved user m' = m' := by
    unfold resolved
    rw [hc]
  rw [intact_iff, hrange, hres]
  exact ⟨fun h => h.2.2, fun h => ⟨ha, hs, h⟩⟩

/-- The range of the only bucket with seconds may be stored, if the bucket is in use. -/
theorem intact_putRange_iff {b : Int} (h0 : 0 < b) (hf : Signed64.Fits b)
    (ha : m'.store.accrued s.keys user = m.store.accrued s.keys user)
    (hs : ∀ b', 0 < m'.store.getScore (s.keys.accrualSet b') user → b' = b) :
    s.Intact user m (m'.putString (s.keys.alertRange user) (toString b) none) ↔
      b ∈ s.bucketsIn m'.store := by
  refine intact_iff_mem ?_ h0 hf ha hs
  rw [rangeText?_putString_alertRange, if_pos rfl]

/-! ## The seconds on their way -/

theorem accrued_resolved (s : Service) (user : String) (m : Memory) :
    (s.resolved user m).store.accrued s.keys user = m.store.accrued s.keys user := by
  have hcredit := (Booked.resolved s user m).credit user
  unfold Memory.credit at hcredit
  rw [s.resolved_ledger user, ite_self] at hcredit
  omega

section Moving

variable {c : Int}

/-- A user with a stored range has no seconds in other buckets. -/
theorem PlacedFor.getScore_of_ne (hp : s.PlacedFor m user)
    (hc : s.rangeText? m user = some ⟨toString c, none⟩) {b : Int} (hne : b ≠ c) :
    m.store.getScore (s.keys.accrualSet b) user = 0 :=
  getScore_eq_zero fun _ hx => hne (hp.eq_of_held hc hx)

theorem PlacedFor.accrued_of_rangeText? (hp : s.PlacedFor m user)
    (hc : s.rangeText? m user = some ⟨toString c, none⟩) :
    m.store.accrued s.keys user = m.store.getScore (s.keys.accrualSet c) user :=
  m.store.accrued_eq_getScore fun _ hne => hp.getScore_of_ne hc hne

theorem getScore_takenOut (b : Int) :
    (s.takenOut user m c).store.getScore (s.keys.accrualSet b) user =
      if b = c then 0 else m.store.getScore (s.keys.accrualSet b) user := by
  show (m.store.removeMember (s.keys.accrualSet c) user).getScore _ _ = _
  rw [Store.getScore_removeMember]
  simp only [Keys.accrualSet_inj, and_true]

/-- Without the score that was taken out the user has no seconds. -/
theorem accrued_takenOut (hp : s.PlacedFor m user)
    (hc : s.rangeText? m user = some ⟨toString c, none⟩) :
    (s.takenOut user m c).store.accrued s.keys user = 0 := by
  refine ((s.takenOut user m c).store.accrued_eq_getScore (b := c) fun b hne => ?_).trans ?_
  · rw [getScore_takenOut, if_neg hne]
    exact hp.getScore_of_ne hc hne
  · rw [getScore_takenOut, if_pos rfl]

theorem joined_eq (hp : s.PlacedFor m user)
    (hc : s.rangeText? m user = some ⟨toString c, none⟩) (hne : c ≠ range) :
    s.joined user m c range = m.store.getScore (s.keys.accrualSet c) user := by
  unfold joined
  rw [getScore_takenOut, if_neg hne.symm, hp.getScore_of_ne hc hne.symm, Int.zero_add]

/-- After the move all seconds of the user stand in the other bucket. -/
theorem getScore_moved (hp : s.PlacedFor m user)
    (hc : s.rangeText? m user = some ⟨toString c, none⟩) (hne : c ≠ range) (b : Int) :
    (s.moved user m c range).store.getScore (s.keys.accrualSet b) user =
      if b = range then m.store.getScore (s.keys.accrualSet c) user else 0 := by
  show ((s.takenOut user m c).store.setScore (s.keys.accrualSet range) user _).getScore _ _ = _
  rw [Store.getScore_setScore, joined_eq hp hc hne, getScore_takenOut]
  simp only [Keys.accrualSet_inj, and_true]
  split
  · rfl
  · split
    · rfl
    · rename_i hbc
      exact hp.getScore_of_ne hc hbc

theorem accrued_moved (hp : s.PlacedFor m user)
    (hc : s.rangeText? m user = some ⟨toString c, none⟩) (hne : c ≠ range) :
    (s.moved user m c range).store.accrued s.keys user = m.store.accrued s.keys user := by
  rw [hp.accrued_of_rangeText? hc]
  refine ((s.moved user m c range).store.accrued_eq_getScore (b := range) fun b hb => ?_).trans ?_
  · rw [getScore_moved hp hc hne, if_neg hb]
  · rw [getScore_moved hp hc hne, if_pos rfl]

/-- Between taking out and adding, the user is intact exactly if there was nothing to take. -/
theorem intact_takenOut_iff (hp : s.Placed m) (hr : s.RangesFit m)
    (hc : s.rangeText? m user = some ⟨toString c, none⟩) :
    s.Intact user m (s.takenOut user m c) ↔ m.store.accrued s.keys user = 0 := by
  constructor
  · intro h
    rw [← h.accrued, accrued_takenOut (hp user) hc]
  · intro h0
    refine intact_of_placed (placed_dropMember hp c user) (hr.of_profiles rfl) ?_
    rw [accrued_takenOut (hp user) hc, h0]

/-- Between adding and storing the other range, the user is intact exactly if nothing was moved. -/
theorem intact_moved_iff (hp : s.Placed m)
    (hc : s.rangeText? m user = some ⟨toString c, none⟩) (hne : c ≠ range) :
    s.Intact user m (s.moved user m c range) ↔ m.store.accrued s.keys user = 0 := by
  have ht : s.rangeText? (s.moved user m c range) user = some ⟨toString c, none⟩ :=
    (s.rangeText?_dropMember m _ user user).trans hc
  obtain ⟨r, h0, hf, he, hl⟩ := (hp user).cached _ hc
  rw [StoredText.mk.injEq] at he
  obtain rfl := Text.toString_inj.1 he.1
  have hscore := getScore_moved (hp user) hc hne
  rw [(hp user).accrued_of_rangeText? hc]
  constructor
  · intro h
    -- the stored range is still the previous one
    have hrange : s.rangeIn user (s.moved user m c range) = c := by
      unfold rangeIn
      rw [cached?_of_rangeText? ht h0 hf, Option.getD_some]
    have hn := (hp user).getScore_nonneg c
    by_contra hpos
    have hb := (intact_iff.1 h).2.1 range (by rw [hscore, if_pos rfl]; omega)
    exact hne (hrange ▸ hb.symm)
  · intro hzero
    refine (intact_iff_mem ht h0 hf (accrued_moved (hp user) hc hne) fun b hb => ?_).2 ?_
    · rw [hscore, hzero, ite_self] at hb
      exact absurd hb (Int.lt_irrefl 0)
    · refine mem_knownBuckets h0 hf ?_
      unfold moved takenOut
      rw [listed?_putScore_accrualSet, listed?_dropMember_accrualSet]
      exact hl

end Moving

/-! ## Where a change stops -/

/-- A change that fails has ended with a refused call, and this call tells whether the user is
intact. -/
def StopsAt {α : Type} (s : Service) (user : String) (range : Int) (m : Memory) (o : Outcome α)
    (T : Trail) : Prop :=
  ∀ e, o = .failed e → ∃ last rest, T.calls = last :: rest ∧ last.reply.isOk = false ∧
    (s.Intact user m T.memory ↔ s.strands user range m last = false)

variable {T : Trail} {α β : Type} {P : Call → Prop}

theorem stopsAt_ok (a : α) : s.StopsAt user range m (.ok a) T := fun _ h => nomatch h

/-- A call at which a change may stop, with what follows it. -/
theorem stopsAt_bind {c : Call} {g : c.Reply → Operation α}
    (hstop : ∀ refused, s.Intact user m T.memory ↔
      s.strands user range m ⟨c, T.memory, refused⟩ = false)
    (hnext : ∀ a T', (Memory.serve c T.memory).1 = .ok a →
      T'.memory = (Memory.serve c T.memory).2 →
        (g a).Keeps (Trail.refusing P) (s.StopsAt user range m) T') :
    (of c >>= g).Keeps (Trail.refusing P) (s.StopsAt user range m) T := by
  refine Trail.keeps_bind_of_cases (fun refused o _ hr ha => ?_) fun refused a hok ha => ?_
  · refine fun _ _ => ⟨_, _, rfl, hr, ?_⟩
    show s.Intact user m (Exchange.after ⟨c, T.memory, refused⟩) ↔ _
    rw [ha]
    exact hstop refused
  · exact hnext a _ hok ha

/-- Storing the range of the only bucket with seconds and listing the bucket. -/
theorem stopsAt_enlist {b : Int} {g : Unit → Operation α} (h0 : 0 < b) (hf : Signed64.Fits b)
    (ha : T.memory.store.accrued s.keys user = m.store.accrued s.keys user)
    (hs : ∀ b', 0 < T.memory.store.getScore (s.keys.accrualSet b') user → b' = b)
    (hstop : s.Intact user m T.memory ↔
      (s.rangeIn user m = range ∨ m.store.accrued s.keys user ≤ 0))
    (hnext : ∀ T', T'.memory = s.cacheRange user T.memory b →
      (g ()).Keeps (Trail.refusing P) (s.StopsAt user range m) T') :
    (s.enlist user b >>= g).Keeps (Trail.refusing P) (s.StopsAt user range m) T := by
  unfold enlist
  rw [bind_assoc]
  refine stopsAt_bind (fun _ => hstop.trans ?_) fun _ T₁ _ h₁ => ?_
  · simp [strands, or_iff_not_imp_left]
  · refine stopsAt_bind (fun _ => ?_) fun _ T₂ _ h₂ => hnext T₂ ?_
    · rw [h₁]
      refine (intact_putRange_iff h0 hf ha hs).trans ?_
      simp only [strands, decide_eq_false_iff_not, not_not]
      exact Iff.rfl
    · rw [h₂, h₁]
      rfl

theorem stopsAt_enlist_last {b : Int} (h0 : 0 < b) (hf : Signed64.Fits b)
    (ha : T.memory.store.accrued s.keys user = m.store.accrued s.keys user)
    (hs : ∀ b', 0 < T.memory.store.getScore (s.keys.accrualSet b') user → b' = b)
    (hstop : s.Intact user m T.memory ↔
      (s.rangeIn user m = range ∨ m.store.accrued s.keys user ≤ 0)) :
    (s.enlist user b).Keeps (Trail.refusing P) (s.StopsAt user range m) T := by
  rw [← bind_pure (s.enlist user b)]
  exact stopsAt_enlist h0 hf ha hs hstop fun _ _ => stopsAt_ok ()

/-- A user without a stored range has no seconds, and is intact while the range is looked up, as
long as its bucket is listed. -/
theorem stopsAt_loadRange {g : Int → Operation α} (hp : s.Placed m) (hr : s.RangesFit m)
    (ht : s.rangeText? m user = none) (hT : T.memory = m)
    (hnext : ∀ T', T'.memory = s.resolved user m →
      (g (s.rangeIn user m)).Keeps (Trail.refusing Call.IsStore) (s.StopsAt user range m) T') :
    (s.loadRange user >>= g).Keeps (Trail.refusing Call.IsStore) (s.StopsAt user range m) T := by
  obtain ⟨hrange, hres⟩ := rangeIn_of_rangeText?_none ht
  obtain ⟨h0, hf⟩ := hr.chosenRange user
  have hnone (b : Int) : m.store.getScore (s.keys.accrualSet b) user = 0 := by
    refine getScore_eq_zero fun x hx => ?_
    have hb := ((hp user).held b x hx).2
    rw [ht] at hb
    cases hb
  rw [loadRange_eq]
  -- the profile is no store, and it answers
  refine ⟨True.intro, ?_⟩
  rintro o T₁ ⟨refused, hstore, rfl, rfl⟩
  obtain rfl : refused = none := by
    by_contra hne
    obtain ⟨sc, hsc⟩ := hstore hne
    cases hsc
  rw [Exchange.reply_of_none, hT]
  have h₁ : (T.extend ⟨.profile user, m, none⟩).memory = m := by
    show Exchange.after ⟨.profile user, m, none⟩ = m
    rw [Exchange.after_of_none]
    rfl
  show ((s.enlist user (s.chosenRange user m) >>= fun _ =>
    (pure (s.chosenRange user m) : Operation Int)) >>= g).Keeps _ _ _
  rw [Program.bind_assoc]
  refine stopsAt_enlist h0 hf (by rw [h₁]) (fun b hb => ?_) ?_ fun T₂ h₂ => ?_
  · rw [h₁, hnone b] at hb
    exact absurd hb (Int.lt_irrefl 0)
  · rw [h₁]
    refine iff_of_true (intact_of_placed hp hr rfl) (.inr ?_)
    rw [(hp user).accrued_eq, hnone]
  · rw [hrange] at hnext
    refine hnext T₂ ?_
    rw [h₂, h₁, hres]

theorem stopsAt_resolve {g : Int → Operation α} (hp : s.Placed m) (hr : s.RangesFit m)
    (hT : T.memory = m)
    (hnext : ∀ T', T'.memory = s.resolved user m →
      (g (s.rangeIn user m)).Keeps (Trail.refusing Call.IsStore) (s.StopsAt user range m) T') :
    (s.resolve user >>= g).Keeps (Trail.refusing Call.IsStore) (s.StopsAt user range m) T := by
  unfold resolve
  rw [bind_assoc]
  refine stopsAt_bind (fun _ => ?_) fun text T₁ htext h₁ => ?_
  · rw [hT]
    exact iff_of_true (intact_of_placed hp hr rfl) rfl
  have hm : T₁.memory = m := h₁.trans hT
  obtain rfl : m.store.getString m.clock.now (s.keys.alertRange user) = text := by
    rw [hT] at htext
    exact Outcome.ok.inj htext
  cases ht : s.rangeText? m user with
  | some e =>
      obtain ⟨hres, h0, hf, rfl⟩ := (hp user).of_rangeText? ht
      have hc := cached?_of_rangeText? ht h0 hf
      unfold cached? at hc
      rw [hc]
      exact hnext T₁ (hm.trans hres.symm)
  | none =>
      have hc := cached?_of_rangeText?_none ht
      unfold cached? at hc
      rw [hc]
      exact stopsAt_loadRange hp hr ht hm hnext

/-- Looking up the range leaves the accrued time, by which the user is intact. -/
theorem intact_resolved_iff : s.Intact user (s.resolved user m) m' ↔ s.Intact user m m' := by
  rw [intact_iff, intact_iff, s.accrued_resolved]

theorem intact_resolved (hp : s.Placed m) (hr : s.RangesFit m) :
    s.Intact user m (s.resolved user m) :=
  intact_of_placed (placed_resolved hp hr user) (hr.of_profiles (s.resolved_profiles user))
    (s.accrued_resolved user m)

/-- After the move the seconds wait for their range to be stored and their bucket to be listed. -/
theorem stopsAt_moved (hp : s.Placed m) (hr : s.RangesFit m) (h0 : 0 < range)
    (hf : Signed64.Fits range) (hne : s.rangeIn user m ≠ range)
    (hT : T.memory = s.moved user (s.resolved user m) (s.rangeIn user m) range) :
    (s.enlist user range).Keeps (Trail.refusing P) (s.StopsAt user range m) T := by
  have hp' := placed_resolved hp hr user
  obtain ⟨hc, -⟩ := resolved_cached (hp user) hr
  have ha := s.accrued_resolved user m
  have hnonneg : 0 ≤ m.store.accrued s.keys user :=
    m.store.accrued_nonneg fun b => (hp user).getScore_nonneg b
  refine stopsAt_enlist_last h0 hf ?_ (fun b hb => ?_) ?_
  · rw [hT, accrued_moved (hp' user) hc hne, ha]
  · by_contra hb'
    rw [hT, getScore_moved (hp' user) hc hne, if_neg hb'] at hb
    exact absurd hb (Int.lt_irrefl 0)
  · rw [hT, ← intact_resolved_iff, intact_moved_iff hp' hc hne, ha]
    constructor
    · intro hzero
      exact .inr (Int.le_of_eq hzero)
    · rintro (h | h)
      · exact absurd h hne
      · omega

/-- Taking the score out and adding it to the other bucket. -/
theorem stopsAt_moveAccrual {g : Unit → Operation α} (hp : s.Placed m) (hr : s.RangesFit m)
    (hT : T.memory = s.resolved user m)
    (hnext : ∀ T', T'.memory = s.moved user (s.resolved user m) (s.rangeIn user m) range →
      (g ()).Keeps (Trail.refusing P) (s.StopsAt user range m) T') :
    (s.moveAccrual user (s.rangeIn user m) range >>= g).Keeps (Trail.refusing P)
      (s.StopsAt user range m) T := by
  have hp' := placed_resolved hp hr user
  have hr' : s.RangesFit (s.resolved user m) := hr.of_profiles (s.resolved_profiles user)
  obtain ⟨hc, -⟩ := resolved_cached (hp user) hr
  unfold moveAccrual
  -- reading and taking out: up to then nothing has changed
  rw [bind_assoc]
  refine stopsAt_bind (fun _ => ?_) fun n T₁ hn h₁ => ?_
  · rw [hT]
    exact iff_of_true (intact_resolved hp hr) rfl
  have hm₁ : T₁.memory = s.resolved user m := h₁.trans hT
  obtain rfl : (s.resolved user m).store.getScore (s.keys.accrualSet (s.rangeIn user m)) user =
      n := by
    rw [hT] at hn
    exact Outcome.ok.inj hn
  rw [bind_assoc]
  refine stopsAt_bind (fun _ => ?_) fun _ T₂ _ h₂ => ?_
  · rw [hm₁]
    exact iff_of_true (intact_resolved hp hr) rfl
  have hm₂ : T₂.memory = s.takenOut user (s.resolved user m) (s.rangeIn user m) := by
    rw [h₂, hm₁]
    rfl
  -- adding: the seconds are on their way
  rw [bind_assoc]
  refine stopsAt_bind (fun _ => ?_) fun _ T₃ hok h₃ => hnext T₃ ?_
  · rw [hm₂, ← intact_resolved_iff, intact_takenOut_iff hp' hr' hc]
    have hn := (hp' user).accrued_of_rangeText? hc
    have hnonneg := (hp' user).getScore_nonneg (s.rangeIn user m)
    simp only [strands, decide_eq_false_iff_not]
    omega
  · rw [hm₂] at hok h₃
    rcases (s.takenOut user (s.resolved user m) (s.rangeIn user m)).serve_incrScore
      (s.keys.accrualSet range) user ((s.resolved user m).store.getScore
        (s.keys.accrualSet (s.rangeIn user m)) user) with hs | hs
    · rw [h₃, hs]
      rfl
    · rw [hs] at hok
      cases hok

/-- The call after which a change from one range to another stops. -/
theorem stopsAt_changeFrom (hp : s.Placed m) (hr : s.RangesFit m) (h0 : 0 < range)
    (hf : Signed64.Fits range) (hT : T.memory = s.resolved user m) :
    (s.changeFrom user (s.rangeIn user m) range).Keeps (Trail.refusing P)
      (s.StopsAt user range m) T := by
  unfold changeFrom
  by_cases hsame : s.rangeIn user m = range
  · rw [if_pos hsame]
    obtain ⟨hc, -⟩ := resolved_cached (hp user) hr
    refine stopsAt_enlist_last h0 hf (by rw [hT, s.accrued_resolved]) (fun b hb => ?_) ?_
    · by_contra hne
      rw [hT, (placed_resolved hp hr user user).getScore_of_ne hc (hsame ▸ hne)] at hb
      exact absurd hb (Int.lt_irrefl 0)
    · rw [hT]
      exact iff_of_true (intact_resolved hp hr) (.inl hsame)
  · rw [if_neg hsame]
    exact stopsAt_moveAccrual hp hr hT fun T' hT' => stopsAt_moved hp hr h0 hf hsame hT'

/-- A change of the alert range that fails as the presence store refuses calls, after any things
that have happened one after another from empty stores on: it has ended with the refused call, and
it leaves the user intact exactly if this call does not strand the user. So the user is intact if
the call only reads, takes the score out or stores the range that was looked up, if there are no
accrued seconds, or if the bucket that could not be listed is in use anyway. -/
theorem failed_change_intact_iff (s : Service) {m₀ : Memory} (hstore : m₀.store = {})
    (hranges : s.RangesFit m₀) (hs : List Happening) (hin : ∀ h ∈ hs, h.InRange)
    (ho : ∀ e ∈ (m₀.proceed s hs).1, e.overflowed = false) (user : String) {range : Int}
    (h0 : 0 < range) (hf : Signed64.Fits range) (f : Refusals) (hstores : f.Within Call.IsStore)
    {e : Failure}
    (he : ((⟨(m₀.proceed s hs).2, []⟩ : Trail).run f (s.changeRange user range)).1 = .failed e) :
    let m := (m₀.proceed s hs).2
    let T := ((⟨m, []⟩ : Trail).run f (s.changeRange user range)).2
    ∃ last rest, T.calls = last :: rest ∧ last.reply.isOk = false ∧
      (s.Intact user m T.memory ↔ s.strands user range m last = false) := by
  intro m T
  have ha := accounted_proceed hs (placed_of_empty hstore) hranges hin ho
  have hstop : (s.changeRange user range).Keeps (Trail.refusing Call.IsStore)
      (s.StopsAt user range m) ⟨m, []⟩ := by
    rw [changeRange_eq, if_neg (Int.not_le.2 h0)]
    exact stopsAt_resolve ha.placed ha.ranges rfl fun T' hT' =>
      stopsAt_changeFrom ha.placed ha.ranges h0 hf hT'
  exact Trail.run_of_keeps hstores hstop e he

/-- The presence store refuses one call: the one with a number. -/
def storeDown (n : Nat) : Refusals := fun k c =>
  match c with
  | .store _ => if k = n then some (.reported "store down") else none
  | _ => none

theorem within_storeDown (n : Nat) : (storeDown n).Within Call.IsStore := by
  intro k c hc
  cases c with
  | store sc => exact ⟨sc, rfl⟩
  | _ => exact absurd rfl hc

/-- Half a minute online in the default bucket. -/
def thirtyAccrued : List Happening :=
  [.request (.activity "ada"), .clock (Clock.afterNoon 30), .request (.activity "ada")]

/-- A score that could not be taken out stays where it is. -/
theorem failed_change_intact_removalRefused :
    let m := ((Memory.fresh Clock.noon).proceed standard thirtyAccrued).2
    let x := (⟨m, []⟩ : Trail).run (storeDown 2) (standard.changeRange "ada" 7)
    x.1 = .failed (.reported "store down") ∧ standard.Intact "ada" m x.2.memory ∧
      x.2.memory.store.getScore (standard.keys.accrualSet 5) "ada" = 30 := by
  intro m x
  have he : x.1 = .failed (.reported "store down") := by decide +kernel
  have hranges : standard.RangesFit (Memory.fresh Clock.noon) := .fresh (by decide) (by decide) _
  obtain ⟨last, rest, hcalls, -, hiff⟩ := failed_change_intact_iff standard rfl hranges
    thirtyAccrued (by decide) (by decide +kernel) "ada" (by decide : (0 : Int) < 7)
    (by decide) (storeDown 2) (within_storeDown 2) he
  have hlast : x.2.calls.head?.map (standard.strands "ada" 7 m) = some false := by decide +kernel
  have hcalls' : x.2.calls = last :: rest := hcalls
  rw [hcalls'] at hlast
  exact ⟨he, hiff.2 (Option.some.inj hlast), by decide +kernel⟩

/-- A range that cannot be stored after the move leaves the seconds in a bucket that is not the
bucket of the user. -/
theorem stranded_rangeRefused :
    ¬ ∀ (s : Service) (m₀ : Memory), m₀.store = {} → s.RangesFit m₀ →
      ∀ hs : List Happening, (∀ h ∈ hs, h.InRange) →
        (∀ e ∈ (m₀.proceed s hs).1, e.overflowed = false) →
      ∀ (user : String) (range : Int), 0 < range → Signed64.Fits range →
      ∀ (n : Nat) (e : Failure),
        let m := (m₀.proceed s hs).2
        let x := (⟨m, []⟩ : Trail).run (storeDown n) (s.changeRange user range)
        x.1 = .failed e → s.Intact user m x.2.memory := by
  intro h
  have hintact := h standard (Memory.fresh Clock.noon) rfl
    (.fresh (by decide) (by decide) _) thirtyAccrued (by decide) (by decide +kernel)
    "ada" 7 (by decide) (by decide) 4 (.reported "store down")
    (by decide +kernel)
  obtain ⟨b, -, hb, honly, -, -⟩ := hintact.placed
  -- the seconds stand in the bucket seven, and the range is still five
  have hseven : 7 = b := honly 7 (by decide +kernel)
  rw [← hseven] at hb
  exact absurd hb (by decide +kernel)

end Service

end Presence
