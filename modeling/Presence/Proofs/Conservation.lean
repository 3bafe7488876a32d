import Presence.Proofs.Placement
import Presence.Proofs.Reading
import Presence.Proofs.Request

/-!
# Conservation of accrued seconds

Every second that is accrued is kept in the accrual sets until it is moved to the daily statistics.
`Booked` says what an operation has done to the two sums of a user, `Service.Kept` says it of
whatever the operation ends with. Main statement: `Service.conservation`, after any things that
have happened one after another the accrued time of a user stands in the bucket of the user, and
accrued and spent seconds together are the seconds that were reported.
-/

set_option autoImplicit false

namespace Presence

/-- A crash at a sum or at an instant outside its range. -/
def Crash.isOverflow : Crash → Bool
  | .addition | .span | .instant => true
  | _ => false

namespace Memory

/-- The counter of flushed seconds, a word of 64 bits, shows the sum of the daily statistics. -/
def Counted (m : Memory) : Prop :=
  (m.metrics.flushedSeconds : Int) = m.ledger.total % 18446744073709551616

end Memory

/-- What an operation on a user has done to the sums: seconds that were gained, and seconds that
were moved to the daily statistics. -/
structure Booked (k : Keys) (user : String) (gain flushed : Int) (m m' : Memory) : Prop where
  credit : ∀ v, m'.credit k v = m.credit k v + if v = user then gain else 0
  total : m'.ledger.total = m.ledger.total + flushed
  flushed_nonneg : 0 ≤ flushed
  counted : m.Counted → m'.Counted

namespace Booked

variable {k : Keys} {user : String} {m m' m'' : Memory} {g g' f f' : Int}

theorem trans (h : Booked k user g f m m') (h' : Booked k user g' f' m' m'') :
    Booked k user (g + g') (f + f') m m'' := by
  have hf := h.flushed_nonneg
  have hf' := h'.flushed_nonneg
  refine ⟨fun v => ?_, ?_, by omega, fun hc => h'.counted (h.counted hc)⟩
  · rw [h'.credit v, h.credit v]
    split <;> omega
  · rw [h'.total, h.total]
    omega

/-- Nothing is booked where the accrued seconds and the statistics stay as they are. -/
theorem of_accrued (ha : ∀ v, m'.store.accrued k v = m.store.accrued k v)
    (hl : m'.ledger = m.ledger) (hf : m'.metrics.flushedSeconds = m.metrics.flushedSeconds) :
    Booked k user 0 0 m m' := by
  refine ⟨fun v => ?_, ?_, Int.le_refl 0, fun hc => ?_⟩
  · simp only [Memory.credit, ha, hl, ite_self, Int.add_zero]
  · rw [hl, Int.add_zero]
  · unfold Memory.Counted at hc ⊢
    rw [hl, hf]
    exact hc

theorem refl (k : Keys) (user : String) (m : Memory) : Booked k user 0 0 m m :=
  of_accrued (fun _ => rfl) rfl rfl

theorem putString (k : Keys) (user : String) (m : Memory) (key value : String)
    (expires : Option Instant) : Booked k user 0 0 m (m.putString key value expires) :=
  of_accrued (fun _ => rfl) rfl rfl

/-- Writing a score books the difference to the score before. -/
theorem putScore (k : Keys) (user : String) (m : Memory) (b x : Int) :
    Booked k user (x - m.store.getScore (k.accrualSet b) user) 0 m
      (m.putScore (k.accrualSet b) user x) := by
  refine ⟨fun v => ?_, (Int.add_zero _).symm, Int.le_refl 0, fun hc => hc⟩
  -- the statistics are not touched, so the credit changes as the accrued time does
  have ha := m.store.accrued_setScore (k := k) b user v x
  show (m.store.setScore (k.accrualSet b) user x).accrued k v + m.ledger.spent v =
    m.store.accrued k v + m.ledger.spent v + _
  rw [ha]
  omega

theorem dropMember (k : Keys) (user : String) (m : Memory) (b : Int) :
    Booked k user (-m.store.getScore (k.accrualSet b) user) 0 m
      (m.dropMember (k.accrualSet b) user) := by
  refine ⟨fun v => ?_, (Int.add_zero _).symm, Int.le_refl 0, fun hc => hc⟩
  have ha := m.store.accrued_removeMember (k := k) b user v
  show (m.store.removeMember (k.accrualSet b) user).accrued k v + m.ledger.spent v =
    m.store.accrued k v + m.ledger.spent v + _
  rw [ha]
  split <;> omega

theorem cacheRange (s : Service) (user : String) (m : Memory) (u : String) (range : Int) :
    Booked s.keys user 0 0 m (s.cacheRange u m range) := by
  refine of_accrued (fun v => ?_) rfl rfl
  exact Store.accrued_setScore_of_bucket?_eq_none _ Keys.bucket?_bucketIndex _ _ _

theorem resolved (s : Service) (user : String) (m : Memory) :
    Booked s.keys user 0 0 m (s.resolved user m) := by
  rcases s.resolved_eq user (m := m) with h | h
  · rw [h]
    exact refl s.keys user m
  · rw [h]
    exact cacheRange s user m user _

/-- Seconds that are added to the daily statistics are booked on both sides. -/
theorem addFlush (k : Keys) {user day : String} {n : Int} (h0 : 0 ≤ n)
    (hf : Signed64.Fits (m.ledger.spentOn user day + n)) :
    Booked k user n n m (m.addFlush user day n) := by
  have ht : (m.addFlush user day n).ledger.total = m.ledger.total + n := Ledger.total_add hf
  refine ⟨fun v => ?_, ht, h0, fun hc => ?_⟩
  · have hs := Ledger.spent_add hf v
    show m.store.accrued k v + (m.ledger.add user day n).2.spent v =
      m.store.accrued k v + m.ledger.spent v + _
    rw [hs]
    omega
  · unfold Memory.Counted at hc ⊢
    rw [ht]
    have hm : (m.addFlush user day n).metrics.flushedSeconds =
        (m.metrics.flushedSeconds + n.toNat) % 18446744073709551616 := rfl
    -- both sides go round their 64 bits together
    rw [hm]
    omega

end Booked

namespace Service

/-- However an operation on a user has ended, users are placed, and what its value tells was
booked. -/
structure Kept {α : Type} (s : Service) (user : String) (gain flushed : α → Int) (m : Memory)
    (r : Outcome α × Memory) : Prop where
  placed : s.Placed r.2
  profiles : r.2.profiles = m.profiles
  booked : ∀ a, r.1 = .ok a → Booked s.keys user (gain a) (flushed a) m r.2
  rejected : ∀ e, r.1 = .failed e → Booked s.keys user 0 0 m r.2
  crashed : ∀ c, r.1 = .crashed c → c.isOverflow = true

namespace Kept

variable {α β : Type} {s : Service} {user : String} {gain flushed : α → Int} {m m' : Memory}

theorem of_ok {a : α} (hp : s.Placed m') (he : m'.profiles = m.profiles)
    (hb : Booked s.keys user (gain a) (flushed a) m m') :
    s.Kept user gain flushed m (.ok a, m') := by
  refine ⟨hp, he, ?_, ?_, ?_⟩
  · rintro b ⟨⟩
    exact hb
  · rintro e ⟨⟩
  · rintro c ⟨⟩

theorem of_crashed {c : Crash} (hp : s.Placed m') (he : m'.profiles = m.profiles)
    (hc : c.isOverflow = true) : s.Kept user gain flushed m (.crashed c, m') := by
  refine ⟨hp, he, ?_, ?_, ?_⟩
  · rintro b ⟨⟩
  · rintro e ⟨⟩
  · rintro c' ⟨⟩
    exact hc

theorem map {r : Outcome α × Memory} (h : s.Kept user gain flushed m r) {f : α → β}
    {gain' flushed' : β → Int} (hg : ∀ a, gain' (f a) = gain a)
    (hf : ∀ a, flushed' (f a) = flushed a) :
    s.Kept user gain' flushed' m (r.1.map f, r.2) := by
  obtain ⟨o, t⟩ := r
  cases o with
  | ok a => exact of_ok h.placed h.profiles (by rw [hg, hf]; exact h.booked a rfl)
  | crashed c => exact of_crashed h.placed h.profiles (h.crashed c rfl)
  | failed e =>
      refine ⟨h.placed, h.profiles, ?_, fun _ _ => h.rejected e rfl, ?_⟩
      · rintro b ⟨⟩
      · rintro c ⟨⟩

/-- What was booked before is nothing. -/
theorem after {r : Outcome α × Memory} (hb : Booked s.keys user 0 0 m m')
    (he : m'.profiles = m.profiles) (h : s.Kept user gain flushed m' r) :
    s.Kept user gain flushed m r := by
  refine ⟨h.placed, h.profiles.trans he, fun a ha => ?_, fun e hf => ?_, h.crashed⟩
  · have := hb.trans (h.booked a ha)
    rwa [Int.zero_add, Int.zero_add] at this
  · have := hb.trans (h.rejected e hf)
    rwa [Int.zero_add] at this

end Kept

/-! ## What the operations keep -/

section Operations

variable {s : Service} {m : Memory} {user : String}

/-- Ending a session gains nothing and moves the accrued time to the statistics. -/
theorem closeSession_kept {b : Int} {t : Instant} (hp : s.Placed m)
    (hb : s.rangeText? m user = some ⟨toString b, none⟩) :
    s.Kept user (fun _ => 0) (fun n => n) m (m.run (s.closeSession user (s.keys.accrualSet b)
      (m.store.getScore (s.keys.accrualSet b) user) t)) := by
  have h0 := (hp user).getScore_nonneg b
  have hp' := placed_putScore (x := 0) hp (Int.le_refl 0) hb
  have hw := Booked.putScore s.keys user m b 0
  -- a score that is not positive is zero, and nothing is written
  by_cases ha : m.store.getScore (s.keys.accrualSet b) user ≤ 0
  · rw [s.run_closeSession_of_nonpos user ha]
    refine Kept.of_ok hp' rfl ?_
    have e : 0 - m.store.getScore (s.keys.accrualSet b) user = 0 := by omega
    rw [e] at hw
    exact hw
  · by_cases hf : Signed64.Fits (m.ledger.spentOn user (s.session.zone.dayKey t) +
        m.store.getScore (s.keys.accrualSet b) user)
    · rw [s.run_closeSession_of_pos user (by omega) hf]
      refine Kept.of_ok (hp'.of_store rfl) rfl ?_
      -- what the reset takes from the accrued time is added to the statistics
      have hl := hw.trans (Booked.addFlush s.keys (m := m.putScore (s.keys.accrualSet b) user 0)
        h0 hf)
      have e : 0 - m.store.getScore (s.keys.accrualSet b) user +
          m.store.getScore (s.keys.accrualSet b) user = 0 := by omega
      rw [e, Int.zero_add] at hl
      exact hl
    · rw [s.run_closeSession_of_not_fits user (by omega) hf]
      exact Kept.of_crashed hp' rfl rfl

theorem judge_kept {b : Int} {t : Instant} {lastSeen : Option Instant} (hp : s.Placed m)
    (hb : s.rangeText? m user = some ⟨toString b, none⟩) :
    s.Kept user Accrual.gained Accrual.flushed m (m.run (s.judge user (s.keys.accrualSet b)
      (m.store.getScore (s.keys.accrualSet b) user) t lastSeen)) := by
  cases lastSeen with
  | none =>
      rw [s.run_judge_none user]
      exact (closeSession_kept hp hb).map (fun _ => rfl) fun _ => rfl
  | some last =>
      by_cases hg : s.session.gapSeconds ≤ t.secondsSince last
      · rw [s.run_judge_of_gap user hg]
        exact (closeSession_kept hp hb).map (fun _ => rfl) fun _ => rfl
      · by_cases h0 : 0 < t.secondsSince last
        · rw [s.run_judge_of_accrued user hg h0]
          by_cases hf : Signed64.Fits (m.store.getScore (s.keys.accrualSet b) user +
              t.secondsSince last)
          · rw [Memory.run_incrScore_of_fits hf]
            have hn := (hp user).getScore_nonneg b
            refine Kept.of_ok (placed_putScore hp (by omega) hb) rfl ?_
            have hw := Booked.putScore s.keys user m b
              (m.store.getScore (s.keys.accrualSet b) user + t.secondsSince last)
            -- the score grows by the gap
            have e : m.store.getScore (s.keys.accrualSet b) user + t.secondsSince last -
                m.store.getScore (s.keys.accrualSet b) user = t.secondsSince last := by omega
            rw [e] at hw
            exact hw
          · rw [Memory.run_incrScore_of_not_fits hf]
            exact Kept.of_crashed hp rfl rfl
        · rw [s.run_judge_of_no_gap user hg h0]
          exact Kept.of_ok hp rfl (Booked.refl s.keys user m)

theorem onActivity_kept (hp : s.Placed m) (hr : s.RangesFit m) (user : String) :
    s.Kept user Accrual.gained Accrual.flushed m (m.run (s.onActivity user)) := by
  have hp' := placed_resolved hp hr user
  obtain ⟨hb, -⟩ := resolved_cached (hp user) hr
  have hw := Booked.resolved s user m
  -- the marker cannot be written when its lifetime leaves the calendar
  have hc : ∀ c, c.isOverflow = true →
      m.clock.now.after (Signed64.ofUnsigned s.session.markerSeconds) = .crashed c →
      s.Kept user Accrual.gained Accrual.flushed m (m.run (s.onActivity user)) := by
    intro c h h'
    rw [s.run_onActivity_of_crashed user h']
    exact Kept.of_crashed hp' (s.resolved_profiles user) h
  rcases m.clock.now.after_cases (Signed64.ofUnsigned s.session.markerSeconds) with h | h | h
  · obtain ⟨expires, he, -⟩ := h
    rw [s.run_onActivity_of_ok user he]
    have hm : Booked s.keys user 0 0 m ((s.resolved user m).putString (s.keys.sessionMarker user)
        (toString m.clock.now.millis) (some expires)) := hw.trans (Booked.putString _ _ _ _ _ _)
    refine Kept.after hm (s.resolved_profiles user) ?_
    refine judge_kept (placed_putString_sessionMarker hp' user _ _) ?_
    rw [rangeText?_putString_sessionMarker]
    exact hb
  · exact hc .span rfl h
  · exact hc .instant rfl h

theorem onHeartbeat_kept (hp : s.Placed m) (hr : s.RangesFit m) (user : String) :
    s.Kept user Accrual.gained Accrual.flushed m (m.run (s.onHeartbeat user)) := by
  have hp' := placed_resolved hp hr user
  obtain ⟨hb, -⟩ := resolved_cached (hp user) hr
  have hw := Booked.resolved s user m
  have he := s.resolved_profiles user (m := m)
  cases hm : (s.resolved user m).store.getString m.clock.now (s.keys.sessionMarker user) with
  | some text =>
      rw [s.run_onHeartbeat_of_open user hm]
      exact Kept.of_ok hp' he hw
  | none =>
      by_cases h0 : (s.resolved user m).store.getScore (s.keys.accrualSet (s.rangeIn user m)) user ≤ 0
      · rw [s.run_onHeartbeat_of_empty user hm h0]
        exact Kept.of_ok hp' he hw
      · rw [s.run_onHeartbeat_of_expired user hm (by omega)]
        exact Kept.after hw he ((closeSession_kept hp' hb).map (fun _ => rfl) fun _ => rfl)

theorem moved_booked (hp : s.Placed m) {previous : Int} (range : Int)
    (hb : s.rangeText? m user = some ⟨toString previous, none⟩) :
    Booked s.keys user 0 0 m (s.moved user m previous range) ∧
      ∀ b x, s.held? (s.moved user m previous range) b user = some x → b = range ∧ 0 ≤ x := by
  have hd := Booked.dropMember s.keys user m previous
  have hw := hd.trans (Booked.putScore s.keys user (s.takenOut user m previous) range
    (s.joined user m previous range))
  have e : -m.store.getScore (s.keys.accrualSet previous) user +
      (s.joined user m previous range -
        (s.takenOut user m previous).store.getScore (s.keys.accrualSet range) user) = 0 := by
    unfold joined
    omega
  rw [e, Int.zero_add] at hw
  refine ⟨hw, fun b x hx => ?_⟩
  have hm : s.held? (s.moved user m previous range) b user =
      if b = range ∧ user = user then some (s.joined user m previous range)
      else s.held? (s.takenOut user m previous) b user :=
    s.held?_putScore _ b user user
  have ht : s.held? (s.takenOut user m previous) b user =
      if b = previous ∧ user = user then none else s.held? m b user :=
    s.held?_dropMember m b user user
  rw [hm] at hx
  split at hx
  · -- the bucket that the score was moved to
    rename_i h
    cases hx
    have h1 := (placed_dropMember hp previous user user).getScore_nonneg range
    have h2 := (hp user).getScore_nonneg previous
    refine ⟨h.1, ?_⟩
    show 0 ≤ (s.takenOut user m previous).store.getScore (s.keys.accrualSet range) user + _
    exact Int.add_nonneg h1 h2
  · rw [ht] at hx
    split at hx
    · cases hx
    · rename_i h
      -- any other bucket would have to be the previous one
      exact absurd ⟨(hp user).eq_of_held hb hx, rfl⟩ h

theorem changeRange_kept (hp : s.Placed m) (hr : s.RangesFit m) (user : String) {range : Int}
    (hf : Signed64.Fits range) :
    s.Kept user (fun _ => 0) (fun _ => 0) m (m.run (s.changeRange user range)) := by
  have hp' := placed_resolved hp hr user
  obtain ⟨hb, -⟩ := resolved_cached (hp user) hr
  have hw := Booked.resolved s user m
  have he := s.resolved_profiles user (m := m)
  by_cases h0 : 0 < range
  · by_cases hs : s.rangeIn user m = range
    · -- the score stays where it is
      rw [s.run_changeRange_of_same user h0 hs]
      refine Kept.of_ok (placed_cacheRange h0 hf (fun v _ => hp' v) fun b x hx => ?_) he ?_
      · exact ⟨((hp' user).eq_of_held hb hx).trans hs, ((hp' user).held b x hx).1⟩
      · exact hw.trans (Booked.cacheRange s user _ user range)
    · obtain ⟨hm, hu⟩ := moved_booked hp' range hb
      by_cases hj : Signed64.Fits (s.joined user (s.resolved user m) (s.rangeIn user m) range)
      · rw [s.run_changeRange_of_fits user h0 hs hj]
        refine Kept.of_ok (placed_cacheRange h0 hf (fun v hv => ?_) hu) he ?_
        · have hd := placed_dropMember hp' (s.rangeIn user m) user v
          refine hd.of_eq rfl (fun b => ?_) fun r hl => ?_
          · exact (s.held?_putScore _ b user v).trans (if_neg fun e => hv e.2)
          · exact (s.listed?_putScore_accrualSet _ r user).trans hl
        · exact (hw.trans hm).trans (Booked.cacheRange s user _ user range)
      · -- the score is gone, and with it the operation
        rw [s.run_changeRange_of_not_fits user h0 hs hj]
        exact Kept.of_crashed (placed_dropMember hp' _ user) he rfl
  · -- a range that is not positive is rejected before anything is done
    rw [s.run_changeRange_of_nonpos user (by omega)]
    refine ⟨hp, rfl, ?_, fun _ _ => Booked.refl s.keys user m, ?_⟩
    · rintro a ⟨⟩
    · rintro c ⟨⟩

end Operations

end Service

/-! ## Requests one after another -/

/-- A request for another alert range names a number of 64 bits. -/
def Request.InRange : Request → Prop
  | .changeRange _ r => Signed64.Fits r
  | _ => True

/-- Alert ranges, in requests and in profiles, are numbers of 64 bits. -/
def Happening.InRange : Happening → Prop
  | .request r => r.InRange
  | .profile _ r => Signed64.Fits r
  | .clock _ => True

instance (r : Request) : Decidable r.InRange :=
  match r with
  | .changeRange _ r => inferInstanceAs (Decidable (Signed64.Fits r))
  | .activity _ | .heartbeat _ | .resolve _ | .liveAccrual _ | .knownBuckets | .scan _ =>
    inferInstanceAs (Decidable True)

instance (h : Happening) : Decidable h.InRange :=
  match h with
  | .request r => inferInstanceAs (Decidable r.InRange)
  | .profile _ r => inferInstanceAs (Decidable (Signed64.Fits r))
  | .clock _ => inferInstanceAs (Decidable True)

/-- Nobody has chosen an alert range in fresh surroundings. -/
theorem Service.RangesFit.fresh {s : Service} (h0 : 0 < s.defaultRange)
    (hf : Signed64.Fits s.defaultRange) (t : Instant) : s.RangesFit (.fresh t) :=
  ⟨h0, hf, fun _ _ h => by cases h⟩

/-- The request has crashed at a sum or at an instant outside its range. -/
def Entry.overflowed (e : Entry) : Bool :=
  match e.outcome with
  | .crashed c => c.isOverflow
  | _ => false

namespace Service

/-- What has become of the sums when requests have ended one after another. -/
structure Accounted (s : Service) (m : Memory) (es : List Entry) (m' : Memory) : Prop where
  placed : s.Placed m'
  ranges : s.RangesFit m'
  counted : m.Counted → m'.Counted
  credit : ∀ v, m'.credit s.keys v = m.credit s.keys v + (es.map (Entry.gained v)).sum
  total : m'.ledger.total = m.ledger.total + (es.map Entry.flushed).sum
  total_le : m.ledger.total ≤ m'.ledger.total

section Requests

variable {s : Service} {m m' : Memory} {user : String}

theorem Accounted.refl (hp : s.Placed m) (hr : s.RangesFit m) : s.Accounted m [] m :=
  ⟨hp, hr, id, fun _ => (Int.add_zero _).symm, (Int.add_zero _).symm, Int.le_refl _⟩

theorem Accounted.trans {m'' : Memory} {es fs : List Entry} (h : s.Accounted m es m')
    (h' : s.Accounted m' fs m'') : s.Accounted m (es ++ fs) m'' := by
  refine ⟨h'.placed, h'.ranges, fun hc => h'.counted (h.counted hc), fun v => ?_, ?_,
    Int.le_trans h.total_le h'.total_le⟩
  · rw [h'.credit v, h.credit v, List.map_append, List.sum_append]
    omega
  · rw [h'.total, h.total, List.map_append, List.sum_append]
    omega

theorem Accounted.of_booked {e : Entry} {gain flushed : Int} (hp : s.Placed m')
    (hr : s.RangesFit m') (h : Booked s.keys user gain flushed m m')
    (hg : ∀ v, e.gained v = if v = user then gain else 0) (hf : e.flushed = flushed) :
    s.Accounted m [e] m' := by
  have ht := h.total
  have h0 := h.flushed_nonneg
  refine ⟨hp, hr, h.counted, fun v => ?_, ?_, by omega⟩
  · rw [h.credit v, List.map_singleton, List.sum_singleton, hg v]
  · rw [h.total, List.map_singleton, List.sum_singleton, hf]

/-- An operation that has kept its word is accounted for under the request that it serves. -/
theorem Kept.accounted {α : Type} {gain flushed : α → Int} {f : α → Report} {r : Request}
    {x : Outcome α × Memory} (h : s.Kept user gain flushed m x) (hr : s.RangesFit m)
    (hg : ∀ a v, Entry.gained v ⟨r, .ok (f a)⟩ = if v = user then gain a else 0)
    (hf : ∀ a, Entry.flushed ⟨r, .ok (f a)⟩ = flushed a)
    (ho : Entry.overflowed ⟨r, x.1.map f⟩ = false) :
    s.Accounted m [⟨r, x.1.map f⟩] x.2 := by
  have hr' := hr.of_profiles h.profiles
  obtain ⟨o, t⟩ := x
  cases o with
  | ok a => exact .of_booked h.placed hr' (h.booked a rfl) (hg a) (hf a)
  | failed e =>
      -- a failure has booked nothing and reports nothing
      refine .of_booked h.placed hr' (h.rejected e rfl) (fun v => ?_) rfl
      rw [ite_self]
      cases r <;> rfl
  | crashed c =>
      have hc := h.crashed c rfl
      rw [show c.isOverflow = false from ho] at hc
      cases hc

theorem accounted_request (hp : s.Placed m) (hr : s.RangesFit m) {r : Request} (hf : r.InRange)
    (ho : Entry.overflowed ⟨r, (m.run (s.perform r)).1⟩ = false) :
    s.Accounted m [⟨r, (m.run (s.perform r)).1⟩] (m.run (s.perform r)).2 := by
  cases r with
  | activity u =>
      have e := Memory.run_map (m := m) (s.onActivity u) Report.accrual
      rw [show m.run (s.perform (.activity u)) = _ from e] at ho ⊢
      exact (onActivity_kept hp hr u).accounted hr (fun _ _ => rfl) (fun _ => rfl) ho
  | heartbeat u =>
      have e := Memory.run_map (m := m) (s.onHeartbeat u) Report.accrual
      rw [show m.run (s.perform (.heartbeat u)) = _ from e] at ho ⊢
      exact (onHeartbeat_kept hp hr u).accounted hr (fun _ _ => rfl) (fun _ => rfl) ho
  | changeRange u range =>
      have e := Memory.run_map (m := m) (s.changeRange u range) fun _ => Report.changed
      rw [show m.run (s.perform (.changeRange u range)) = _ from e] at ho ⊢
      exact (changeRange_kept hp hr u hf).accounted hr (fun _ _ => (ite_self _).symm)
        (fun _ => rfl) ho
  | resolve u =>
      have e := Memory.run_map (m := m) (s.resolve u) Report.range
      rw [show m.run (s.perform (.resolve u)) = _ from e, s.run_resolve u]
      exact .of_booked (placed_resolved hp hr u) (hr.of_profiles (s.resolved_profiles u))
        (Booked.resolved s u m) (fun _ => (ite_self _).symm) rfl
  | liveAccrual u =>
      have e := Memory.run_map (m := m) (s.liveAccrual u) Report.seconds
      rw [show m.run (s.perform (.liveAccrual u)) = _ from e, s.run_liveAccrual u]
      exact .of_booked (placed_resolved hp hr u) (hr.of_profiles (s.resolved_profiles u))
        (Booked.resolved s u m) (fun _ => (ite_self _).symm) rfl
  | knownBuckets =>
      exact .of_booked hp hr (Booked.refl s.keys "" m) (fun _ => (ite_self _).symm) rfl
  | scan job =>
      have e := Memory.run_map (m := m) (s.scan job) Report.scanned
      rw [show m.run (s.perform (.scan job)) = _ from e]
      have ha := s.scan_agree job m
      generalize m.run (s.scan job) = x at ha
      obtain ⟨o, t⟩ := x
      have hb : Booked s.keys "" 0 0 m t :=
        Booked.of_accrued (fun v => by rw [ha.store]) ha.ledger ha.flushed
      refine .of_booked (hp.of_store ha.store) (hr.of_profiles ha.profiles) hb (fun v => ?_) ?_
      · rw [ite_self]
        rfl
      · cases o <;> rfl

theorem accounted_happen (hp : s.Placed m) (hr : s.RangesFit m) {h : Happening} (hf : h.InRange)
    (ho : ∀ e ∈ (m.happen s h).1, e.overflowed = false) :
    s.Accounted m (m.happen s h).1 (m.happen s h).2 := by
  cases h with
  | request r => exact accounted_request hp hr hf (ho _ List.mem_cons_self)
  | profile u r =>
      refine ⟨hp.of_store rfl, ⟨hr.default_pos, hr.default_fits, fun v r' hv => ?_⟩, id,
        fun _ => (Int.add_zero _).symm, (Int.add_zero _).symm, Int.le_refl _⟩
      have hv' : (m.profiles.set u r).get? v = some r' := hv
      -- the range that was just chosen, or one from before
      by_cases h : v = u
      · rw [h, Table.get?_set_self] at hv'
        cases hv'
        exact hf
      · rw [Table.get?_set_of_ne _ _ h] at hv'
        exact hr.profiles v r' hv'
  | clock t =>
      exact ⟨hp.of_store rfl, hr.of_profiles rfl, id, fun _ => (Int.add_zero _).symm,
        (Int.add_zero _).symm, Int.le_refl _⟩

/-- Whatever has happened, one thing after another, is accounted for. -/
theorem accounted_proceed (hs : List Happening) (hp : s.Placed m) (hr : s.RangesFit m)
    (hf : ∀ h ∈ hs, h.InRange) (ho : ∀ e ∈ (m.proceed s hs).1, e.overflowed = false) :
    s.Accounted m (m.proceed s hs).1 (m.proceed s hs).2 := by
  induction hs generalizing m with
  | nil => exact .refl hp hr
  | cons h rest ih =>
      -- what happens first leaves the users placed for the rest
      have h1 : s.Accounted m (m.happen s h).1 (m.happen s h).2 :=
        accounted_happen hp hr (hf h List.mem_cons_self) fun e he =>
          ho e (List.mem_append_left _ he)
      have h2 := ih h1.placed h1.ranges (fun k hk => hf k (List.mem_cons_of_mem _ hk))
        fun e he => ho e (List.mem_append_right _ he)
      exact h1.trans h2

/-- The accrued time of a user who is placed is the score in the bucket of the user. -/
theorem PlacedFor.accrued_eq (h : s.PlacedFor m user) :
    m.store.accrued s.keys user =
      m.store.getScore (s.keys.accrualSet (s.rangeIn user m)) user := by
  exact m.store.accrued_eq_getScore fun b hb =>
    getScore_eq_zero fun x hx => hb (h.eq_rangeIn hx)

theorem placed_of_empty (h : m.store = {}) : s.Placed m := by
  intro v
  constructor
  · intro e he
    unfold rangeText? at he
    rw [h] at he
    cases he
  · intro b x hx
    unfold held? at hx
    rw [h] at hx
    cases hx

end Requests

/-- Where the seconds of a user are after requests have ended with the given outcomes. -/
structure Balanced (s : Service) (es : List Entry) (m : Memory) (user : String) : Prop where
  /-- The user has a score in no other bucket than the one that asking for the alert range
  yields, and this bucket is among the known ones from then on. -/
  bucket : ∃ b bs, (m.run (s.resolve user)).1 = .ok b ∧
    (∀ b' x, s.held? m b' user = some x → b' = b) ∧
    ((m.run (s.resolve user)).2.run s.knownBuckets).1 = .ok bs ∧ b ∈ bs
  /-- A bucket in which the user has a score is among the known ones. -/
  known : ∀ b x, s.held? m b user = some x →
    ∃ bs, (m.run s.knownBuckets).1 = .ok bs ∧ b ∈ bs
  /-- The accrued seconds with the seconds of all days are the seconds that were reported. -/
  gained : ∃ n, (m.run (s.liveAccrual user)).1 = .ok n ∧
    n + m.ledger.spent user = (es.map (Entry.gained user)).sum
  /-- The seconds of all users and days are the seconds that were reported as flushed. -/
  flushed : m.ledger.total = (es.map Entry.flushed).sum
  /-- The counter of flushed seconds shows the same, modulo its word. -/
  counted : (m.metrics.value .flushedSeconds : Int) = m.ledger.total % 18446744073709551616
  counted_of_lt : m.ledger.total < 18446744073709551616 →
    (m.metrics.value .flushedSeconds : Int) = m.ledger.total

/-- Whatever happens from empty stores on, one thing after another, no second is lost or counted
twice, unless a sum or an instant leaves its range. -/
theorem conservation (s : Service) {m : Memory} (hstore : m.store = {}) (hledger : m.ledger = {})
    (hcount : m.metrics.flushedSeconds = 0) (hr : s.RangesFit m) (hs : List Happening)
    (hf : ∀ h ∈ hs, h.InRange) (ho : ∀ e ∈ (m.proceed s hs).1, e.overflowed = false)
    (user : String) :
    s.Balanced (m.proceed s hs).1 (m.proceed s hs).2 user := by
  have ha := accounted_proceed hs (placed_of_empty hstore) hr hf ho
  have hc0 : m.Counted := by
    unfold Memory.Counted
    rw [hcount, hledger]
    rfl
  have hcredit : m.credit s.keys user = 0 := by
    unfold Memory.credit
    rw [hstore, hledger]
    rfl
  have htotal : m.ledger.total = 0 := by
    rw [hledger]
    rfl
  generalize (m.proceed s hs).1 = es at ha
  generalize (m.proceed s hs).2 = t at ha
  have hp := ha.placed user
  obtain ⟨hb, -⟩ := resolved_cached hp ha.ranges
  refine ⟨?_, fun b x hx => ?_, ?_, ?_, ha.counted hc0, fun hlt => ?_⟩
  · refine ⟨s.rangeIn user t, _, ?_, fun b' x hx => hp.eq_rangeIn hx,
      congrArg (·.1) s.run_knownBuckets, ?_⟩
    · rw [s.run_resolve]
    · rw [s.run_resolve]
      exact (placed_resolved ha.placed ha.ranges user user).mem_bucketsOf hb
  · exact ⟨_, congrArg (·.1) s.run_knownBuckets, hp.mem_bucketsOf (hp.held b x hx).2⟩
  · refine ⟨_, by rw [s.run_liveAccrual], ?_⟩
    have hg := ha.credit user
    rw [hcredit, Int.zero_add] at hg
    -- asking for the accrued time changes no score
    rw [← hg, getScore_resolved, ← hp.accrued_eq]
    rfl
  · have hg := ha.total
    rw [htotal, Int.zero_add] at hg
    exact hg
  · have hg := ha.total_le
    have hc := ha.counted hc0
    unfold Memory.Counted at hc
    show (t.metrics.flushedSeconds : Int) = t.ledger.total
    omega

/-- Half a minute online, a change of the alert range, and a heartbeat after the session. -/
def expiredSession : List Happening :=
  [.request (.activity "ada"), .clock ⟨1792324830000, by decide⟩, .request (.activity "ada"),
    .request (.changeRange "ada" 7), .clock ⟨1792324930000, by decide⟩,
    .request (.heartbeat "ada")]

theorem conservation_expiredSession :
    standard.Balanced ((Memory.fresh Clock.noon).proceed standard expiredSession).1
        ((Memory.fresh Clock.noon).proceed standard expiredSession).2 "ada" ∧
      (((Memory.fresh Clock.noon).proceed standard expiredSession).1.map Entry.flushed).sum = 30 := by
  have hranges : standard.RangesFit (Memory.fresh Clock.noon) := .fresh (by decide) (by decide) _
  exact ⟨conservation standard rfl rfl rfl hranges expiredSession (by decide) (by decide +kernel)
    "ada", by decide +kernel⟩

end Service

end Presence
