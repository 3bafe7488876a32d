import Mathlib.Data.List.Induction
import Mathlib.Data.List.Infix
import Presence.Proofs.KnownRange
import Presence.Proofs.Refusals
import Presence.Proofs.Separation

/-!
# Sessions while profiles cannot be read

While the profile of a user cannot be read the events of the user work on the default bucket, and
nothing is stored. If the profile that is read at last names another bucket, the seconds in the
default one have gone astray (`View.astray`): no event looks for them there. Main statements:
`Service.reckoned_request`, what one request does to the seconds of a user whatever profiles it
cannot read, and `Service.settles_iff_leavesNoneAstray`, every end of a session settles exactly the
seconds that were gained since the end before, and leaves none, unless it leaves seconds astray.
-/

set_option autoImplicit false

namespace Presence

open Operation Program

/-- The call looks up a profile. -/
def Call.IsProfile : Call → Prop
  | .profile _ => True
  | _ => False

/-- The event has ended a session. -/
def Accrual.closes : Accrual → Bool
  | .started _ | .restarted _ _ | .expired _ => true
  | .accrued _ | .unchanged => false

/-- The request has ended a session of a user. -/
def Entry.closes (user : String) (e : Entry) : Bool :=
  match e.request, e.accrual? with
  | .activity u, some a | .heartbeat u, some a => user = u && a.closes
  | _, _ => false

namespace Entry

variable {user : String} {e : Entry}

/-- A request of another user is no event of the user. -/
theorem closes_eq_false (h : e.request.user? ≠ some user) : e.closes user = false := by
  obtain ⟨r, o⟩ := e
  unfold closes
  split
  · rename_i u a hr ha
    rw [decide_eq_false fun e => h (by rw [e]; exact congrArg Request.user? hr)]
    rfl
  · rename_i u a hr ha
    rw [decide_eq_false fun e => h (by rw [e]; exact congrArg Request.user? hr)]
    rfl
  · rfl

theorem gained_eq_zero (h : e.request.user? ≠ some user) : e.gained user = 0 := by
  obtain ⟨r, o⟩ := e
  unfold gained
  split
  · rename_i u a hr ha
    rw [if_neg fun e => h (by rw [e]; exact congrArg Request.user? hr)]
  · rename_i u a hr ha
    rw [if_neg fun e => h (by rw [e]; exact congrArg Request.user? hr)]
  · rfl

end Entry

/-- The seconds that a user has gained since a session of the user was ended. -/
def sinceClosing (user : String) (es : List Entry) : Int :=
  es.foldl (fun n e => if e.closes user then 0 else n + e.gained user) 0

theorem sinceClosing_concat (user : String) (es : List Entry) (e : Entry) :
    sinceClosing user (es ++ [e]) =
      if e.closes user then 0 else sinceClosing user es + e.gained user := by
  unfold sinceClosing
  rw [List.foldl_append]
  rfl

/-! ## Where the seconds of a user stand -/

namespace View

variable (d : Int) (v : View)

/-- The score of the user in a bucket, zero where the user has none. -/
def score (b : Int) : Int := (v.scores b).getD 0

/-- The bucket of the user: the one that the stored text names, else the default one. -/
def seat : Int := (Service.cachedRange? (v.range.map (·.value))).getD d

/-- The seconds in the default bucket while the bucket of the user is another one. -/
def astray : Int := if v.seat d = d then 0 else v.score d

/-- The seconds in the bucket of the user and those astray. -/
def total : Int := v.score (v.seat d) + v.astray d

/-- The user has seconds in the bucket of the user and in the default one only. -/
structure Scattered : Prop where
  named : ∀ e, v.range = some e → ∃ r, 0 < r ∧ Signed64.Fits r ∧ e = ⟨toString r, none⟩
  nonneg : ∀ b, 0 ≤ v.score b
  elsewhere : ∀ b, b ≠ d → b ≠ v.seat d → v.score b = 0

/-- An event has worked on one bucket of the user. -/
structure Worked (b : Int) (a : Accrual) (v v' : View) : Prop where
  range : v'.range = v.range
  score : ∀ x, v'.score x =
    if x = b then if a.closes then 0 else v.score b + a.gained else v.score x
  flushed : a.closes = true → a.flushed = v.score b
  gained_nonneg : 0 ≤ a.gained

/-- The alert range of the user was asked for; it is stored now, unless it was before or could not
be read. -/
structure Asked (chosen : Int) (v v' : View) : Prop where
  scores : v'.scores = v.scores
  range : v'.range = v.range ∨ v.range = none ∧ v'.range = some ⟨toString chosen, none⟩

/-- The score of the user was moved from one bucket to another, which is stored now. -/
structure Carried (previous next : Int) (v v' : View) : Prop where
  range : v'.range = some ⟨toString next, none⟩
  score : ∀ x, v'.score x =
    if x = next then (if previous = next then 0 else v.score previous) + v.score next
    else if x = previous then 0 else v.score x

variable {d v} {v' : View}

theorem seat_of_none (h : v.range = none) : v.seat d = d := by
  unfold seat
  rw [h]
  rfl

theorem seat_of_some {r : Int} (h : v.range = some ⟨toString r, none⟩) (h0 : 0 < r)
    (hf : Signed64.Fits r) : v.seat d = r := by
  unfold seat
  rw [h]
  show (Service.cachedRange? (some (toString r))).getD d = r
  rw [Service.cachedRange?_toString h0 hf]
  rfl

/-- What stands in the default bucket is astray or stands in the bucket of the user. -/
theorem astray_of_ne (h : v.seat d ≠ d) : v.astray d = v.score d := if_neg h

theorem astray_of_eq (h : v.seat d = d) : v.astray d = 0 := if_pos h

theorem Scattered.astray_nonneg (h : v.Scattered d) : 0 ≤ v.astray d := by
  unfold astray
  split
  · exact Int.le_refl 0
  · exact h.nonneg d

/-- A user without any seconds has no score. -/
theorem Scattered.score_eq_zero (h : v.Scattered d) (ht : v.total d = 0) (b : Int) :
    v.score b = 0 := by
  have ha := h.astray_nonneg
  have hs := h.nonneg (v.seat d)
  unfold total at ht
  by_cases hb : b = v.seat d
  · rw [hb]
    omega
  · by_cases hd : b = d
    · subst hd
      have := astray_of_ne (v := v) fun e => hb e.symm
      omega
    · exact h.elsewhere b hd hb

/-- Only the stored text and the scores matter. -/
theorem Scattered.of_eq (h : v.Scattered d) (hr : v'.range = v.range)
    (hs : v'.scores = v.scores) :
    v'.Scattered d ∧ v'.astray d = v.astray d ∧ v'.total d = v.total d := by
  obtain ⟨marker, range, scores, days, profile, clock⟩ := v
  obtain ⟨marker', range', scores', days', profile', clock'⟩ := v'
  obtain rfl : range' = range := hr
  obtain rfl : scores' = scores := hs
  exact ⟨⟨h.named, h.nonneg, h.elsewhere⟩, rfl, rfl⟩

/-- An event in the bucket of the user leaves alone what is astray. -/
theorem Scattered.worked (h : v.Scattered d) {a : Accrual} (hw : Worked (v.seat d) a v v') :
    v'.Scattered d ∧ v'.astray d = v.astray d ∧
      v'.total d = (if a.closes then 0 else v.score (v.seat d) + a.gained) + v.astray d := by
  have hseat : v'.seat d = v.seat d := by
    unfold seat
    rw [hw.range]
  have hother : ∀ x, x ≠ v.seat d → v'.score x = v.score x := by
    intro x hx
    rw [hw.score, if_neg hx]
  have hastray : v'.astray d = v.astray d := by
    by_cases he : v.seat d = d
    · rw [astray_of_eq he, astray_of_eq (hseat.trans he)]
    · rw [astray_of_ne he, astray_of_ne fun e => he (hseat.symm.trans e)]
      exact hother d (Ne.symm he)
  refine ⟨⟨fun e he => h.named e (hw.range ▸ he), fun b => ?_, fun b hd hb => ?_⟩, hastray, ?_⟩
  · have h1 := h.nonneg (v.seat d)
    have h2 := hw.gained_nonneg
    rw [hw.score]
    split
    · split <;> omega
    · exact h.nonneg b
  · rw [hseat] at hb
    rw [hother b hb]
    exact h.elsewhere b hd hb
  · unfold total
    rw [hastray, hseat, hw.score, if_pos rfl]

/-- Asking for the alert range leaves all seconds where they are; those in the default bucket go
astray if another one is stored. -/
theorem Scattered.asked (h : v.Scattered d) {chosen : Int} (h0 : 0 < chosen)
    (hf : Signed64.Fits chosen) (ha : Asked chosen v v') :
    v'.Scattered d ∧ v'.total d = v.total d ∧
      (v'.astray d = v.astray d ∨ v.range = none ∧ chosen ≠ d ∧ v'.astray d = v.score d) := by
  have hscore : ∀ b, v'.score b = v.score b := by
    intro b
    unfold score
    rw [ha.scores]
  rcases ha.range with hr | ⟨hn, hr⟩
  · obtain ⟨h1, h2, h3⟩ := h.of_eq hr ha.scores
    exact ⟨h1, h3, .inl h2⟩
  · have hd := seat_of_none (d := d) hn
    have hc := seat_of_some (d := d) hr h0 hf
    have hold := astray_of_eq hd
    have hempty : ∀ b, b ≠ d → v.score b = 0 := fun b hb =>
      h.elsewhere b hb fun e => hb (e.trans hd)
    refine ⟨⟨fun e he => ?_, fun b => ?_, fun b hb _ => ?_⟩, ?_⟩
    · rw [hr] at he
      cases he
      exact ⟨chosen, h0, hf, rfl⟩
    · rw [hscore]
      exact h.nonneg b
    · rw [hscore]
      exact hempty b hb
    · unfold total
      by_cases he : chosen = d
      · have hnew := astray_of_eq (hc.trans he)
        rw [hnew, hold, hc, hd, hscore, he]
        exact ⟨rfl, .inl rfl⟩
      · -- the default bucket is not that of the user any more
        have hnew := astray_of_ne fun e => he (hc.symm.trans e)
        rw [hnew, hold, hc, hd, hscore, hscore, hempty chosen he]
        exact ⟨by omega, .inr ⟨hn, he, rfl⟩⟩

/-- A change of the alert range takes the seconds along that stand in the bucket of the user. Those
astray come back if the new bucket is the default one. -/
theorem Scattered.carried (h : v.Scattered d) {range : Int} (h0 : 0 < range)
    (hf : Signed64.Fits range) (hc : Carried (v.seat d) range v v') :
    v'.Scattered d ∧ v'.total d = v.total d ∧
      v'.astray d = if range = d then 0 else v.astray d := by
  have hseat := seat_of_some (d := d) hc.range h0 hf
  have hnew := hc.score range
  rw [if_pos rfl] at hnew
  have hastray : v'.astray d = if range = d then 0 else v.astray d := by
    unfold astray
    rw [hseat]
    by_cases hd : range = d
    · rw [if_pos hd, if_pos hd]
    · rw [if_neg hd, if_neg hd, hc.score, if_neg (Ne.symm hd)]
      by_cases hs : v.seat d = d
      · rw [if_pos hs, if_pos hs.symm]
      · rw [if_neg hs, if_neg (Ne.symm hs)]
  refine ⟨⟨fun e he => ?_, fun b => ?_, fun b hb hr => ?_⟩, ?_, hastray⟩
  · rw [hc.range] at he
    cases he
    exact ⟨range, h0, hf, rfl⟩
  · have h1 := h.nonneg (v.seat d)
    have h2 := h.nonneg range
    have h3 := h.nonneg b
    rw [hc.score]
    split
    · split <;> omega
    · split <;> omega
  · rw [hseat] at hr
    rw [hc.score, if_neg hr]
    split
    · rfl
    · rename_i hp
      exact h.elsewhere b hb hp
  · unfold total
    rw [hastray, hseat, hnew]
    by_cases hs : v.seat d = range
    · -- nothing is moved
      rw [if_pos hs, hs]
      by_cases hd : range = d
      · rw [if_pos hd, astray_of_eq (hs.trans hd)]
        omega
      · rw [if_neg hd]
        omega
    · rw [if_neg hs]
      by_cases hd : range = d
      · subst hd
        rw [if_pos rfl, astray_of_ne hs]
        omega
      · have he := h.elsewhere range hd (Ne.symm hs)
        rw [if_neg hd]
        omega

theorem score_withScore (v : View) (b : Int) (x : Option Int) (c : Int) :
    (v.withScore b x).score c = if c = b then x.getD 0 else v.score c := by
  unfold score withScore
  dsimp only
  split <;> rfl

end View

namespace Service

variable {s : Service} {user : String} {m : Memory} {T : Trail}

/-! ## Operations while profiles cannot be read -/

/-- The seconds of the user in the default bucket while the bucket of the user is another one. -/
def astray (s : Service) (user : String) (m : Memory) : Int :=
  (m.view s.keys user).astray s.defaultRange

theorem view_cacheRange (user : String) (m : Memory) (range : Int) :
    (s.cacheRange user m range).view s.keys user =
      { m.view s.keys user with range := some ⟨toString range, none⟩ } := by
  unfold cacheRange
  rw [Memory.view_putScore_other (.inl Keys.bucket?_bucketIndex), Memory.view_putRange]

/-- The alert range was asked for, and the answer is the bucket of the user. -/
def Located (s : Service) (user : String) (m : Memory) (o : Outcome Int) (m' : Memory) : Prop :=
  o = .ok ((m'.view s.keys user).seat s.defaultRange) ∧
    View.Asked (s.chosenRange user m) (m.view s.keys user) (m'.view s.keys user)

/-- Asking for the alert range comes back with the bucket of the user, whether or not the profile
can be read. -/
theorem keeps_resolve_outage (h : (T.memory.view s.keys user).Scattered s.defaultRange)
    (hr : s.RangesFit T.memory) :
    (s.resolve user).Keeps (Trail.refusing Call.IsProfile)
      (fun o T' => s.Located user T.memory o T'.memory) T := by
  unfold resolve
  have hs : Memory.serve (.store (.getString (s.keys.alertRange user))) T.memory =
      (.ok (T.memory.store.getString T.memory.clock.now (s.keys.alertRange user)), T.memory) := rfl
  refine Trail.keeps_bind_of_served id hs ?_
  cases hv : s.rangeText? T.memory user with
  | some e =>
      obtain ⟨r, h0, hf, rfl⟩ := h.named e hv
      have hc := cached?_of_rangeText? hv h0 hf
      unfold cached? at hc
      rw [hc]
      exact ⟨congrArg Outcome.ok (View.seat_of_some hv h0 hf).symm, rfl, .inl rfl⟩
  | none =>
      have hc := cached?_of_rangeText?_none hv
      unfold cached? at hc
      rw [hc]
      show (s.loadRange user).Keeps _ _ _
      refine ⟨True.intro, ?_⟩
      rintro r T' ⟨refused, -, rfl, rfl⟩
      unfold Trail.extend
      rcases Exchange.cases_refusal (.profile user) T.memory refused with ⟨e, he, ha⟩ | ⟨he, ha⟩
      · -- the default bucket is that of the user as long as nothing is stored
        rw [he, ha]
        exact ⟨congrArg Outcome.ok (View.seat_of_none hv).symm, rfl, .inl rfl⟩
      · -- the range in the profile is stored and listed
        rw [he, ha]
        obtain ⟨h0, hf⟩ := hr.chosenRange user
        have hstored : s.Located user T.memory (.ok (s.chosenRange user T.memory))
            (s.cacheRange user T.memory (s.chosenRange user T.memory)) := by
          unfold Located
          rw [view_cacheRange]
          exact ⟨congrArg Outcome.ok (View.seat_of_some rfl h0 hf).symm, rfl, .inr ⟨hv, rfl⟩⟩
        refine Trail.keeps_of_run (R := s.Located user T.memory) ?_ hstored
        exact Only.bind (only_ask id) fun _ => Only.bind (only_ask id) fun _ => only_pure _

/-- An event on a bucket of the user has ended with a value, unless a sum or an instant has left its
range. -/
def Worked (s : Service) (user : String) (b : Int) (m : Memory) (x : Outcome Accrual × Memory) :
    Prop :=
  (∃ a, x.1 = .ok a ∧ View.Worked b a (m.view s.keys user) (x.2.view s.keys user)) ∨
    ∃ c, x.1 = .crashed c ∧ c.isOverflow = true

section Events

variable {b : Int} {t : Instant}

/-- Nothing is done by an event that changes nothing. -/
theorem worked_of_eq {a : Accrual} {m' : Memory} (ha : a.closes = false) (hg : a.gained = 0)
    (hr : (m'.view s.keys user).range = (m.view s.keys user).range)
    (hs : (m'.view s.keys user).scores = (m.view s.keys user).scores) :
    s.Worked user b m (.ok a, m') := by
  refine .inl ⟨a, rfl, hr, fun x => ?_, fun h => ?_, Int.le_of_eq hg.symm⟩
  · have hx : (m'.view s.keys user).score x = (m.view s.keys user).score x := by
      unfold View.score
      rw [hs]
    rw [hx, ha, hg]
    split
    · rename_i e
      rw [e]
      exact (Int.add_zero _).symm
    · rfl
  · rw [ha] at h
    cases h

/-- The accrued time in the bucket is set to zero, and the event tells how much it was. -/
theorem worked_closeSession {f : Int → Accrual} (h0 : 0 ≤ (m.view s.keys user).score b)
    (hc : ∀ n, (f n).closes = true) (hg : ∀ n, (f n).gained = 0)
    (hf : (f ((m.view s.keys user).score b)).flushed = (m.view s.keys user).score b) :
    let x := m.run (s.closeSession user (s.keys.accrualSet b) ((m.view s.keys user).score b) t)
    s.Worked user b m (x.1.map f, x.2) := by
  -- however much it was, the score is zero now
  have hw {m' : Memory} (hs : m'.store = (m.putScore (s.keys.accrualSet b) user 0).store) :
      s.Worked user b m (.ok (f ((m.view s.keys user).score b)), m') := by
    refine .inl ⟨_, rfl, ?_, fun x => ?_, fun _ => hf, Int.le_of_eq (hg _).symm⟩
    · show m'.store.strings.get? _ = _
      rw [hs]
      rfl
    · show m'.store.getScore (s.keys.accrualSet x) user = _
      rw [hs, hc, if_pos rfl]
      have := View.score_withScore (m.view s.keys user) b (some 0) x
      rw [← Memory.view_putScore] at this
      exact this
  intro x
  by_cases hp : (m.view s.keys user).score b ≤ 0
  · have hz : (m.view s.keys user).score b = 0 := Int.le_antisymm hp h0
    have hx : x = (.ok 0, m.putScore (s.keys.accrualSet b) user 0) :=
      s.run_closeSession_of_nonpos user hp
    rw [hx]
    rw [hz] at hw
    exact hw rfl
  · have hp' : 0 < (m.view s.keys user).score b := Int.not_le.1 hp
    by_cases hfit : Signed64.Fits (m.ledger.spentOn user (s.session.zone.dayKey t) +
        (m.view s.keys user).score b)
    · rw [show x = _ from s.run_closeSession_of_pos user hp' hfit]
      exact hw rfl
    · rw [show x = _ from s.run_closeSession_of_not_fits user hp' hfit]
      exact .inr ⟨_, rfl, rfl⟩

theorem worked_judge {lastSeen : Option Instant} (h0 : 0 ≤ (m.view s.keys user).score b) :
    s.Worked user b m (m.run (s.judge user (s.keys.accrualSet b) ((m.view s.keys user).score b) t
      lastSeen)) := by
  cases lastSeen with
  | none =>
      rw [s.run_judge_none user]
      exact worked_closeSession h0 (fun _ => rfl) (fun _ => rfl) rfl
  | some last =>
      by_cases hg : s.session.gapSeconds ≤ t.secondsSince last
      · rw [s.run_judge_of_gap user hg]
        exact worked_closeSession h0 (fun _ => rfl) (fun _ => rfl) rfl
      · by_cases hpos : 0 < t.secondsSince last
        · rw [s.run_judge_of_accrued user hg hpos]
          by_cases hfit : Signed64.Fits ((m.view s.keys user).score b + t.secondsSince last)
          · rw [Memory.run_incrScore_of_fits hfit]
            refine .inl ⟨_, rfl, rfl, fun x => ?_, fun h => (by cases h), Int.le_of_lt hpos⟩
            show ((m.putScore _ _ _).view s.keys user).score x = _
            rw [Memory.view_putScore, View.score_withScore]
            rfl
          · rw [Memory.run_incrScore_of_not_fits hfit]
            exact .inr ⟨_, rfl, rfl⟩
        · rw [s.run_judge_of_no_gap user hg hpos]
          exact worked_of_eq rfl rfl rfl rfl

theorem worked_activityIn (h0 : 0 ≤ (m.view s.keys user).score b) :
    s.Worked user b m (m.run (s.activityIn user b t)) := by
  unfold activityIn
  rw [Memory.run_bind_ok (t := m) rfl, Memory.run_bind_ok (t := m) rfl]
  rcases m.clock.now.after_cases (Signed64.ofUnsigned s.session.markerSeconds) with h | h | h
  · obtain ⟨expires, he, -⟩ := h
    rw [Memory.run_bind_ok (Memory.run_setString_of_ok he)]
    -- the marker is neither the stored range nor a score
    have hv : (m.putString (s.keys.sessionMarker user) (toString t.millis) (some expires)).view
        s.keys user =
          { m.view s.keys user with marker := some ⟨toString t.millis, some expires⟩ } :=
      Memory.view_putMarker _ _ m
    have h1 : 0 ≤ ((m.putString (s.keys.sessionMarker user) (toString t.millis)
        (some expires)).view s.keys user).score b := by
      rw [hv]
      exact h0
    rcases worked_judge (s := s) (t := t) h1 with ⟨a, ha, hw⟩ | hc
    · rw [hv] at hw
      exact .inl ⟨a, ha, hw.range, hw.score, hw.flushed, hw.gained_nonneg⟩
    · exact .inr hc
  · rw [Memory.run_bind_crashed (Memory.run_setString_of_crashed h)]
    exact .inr ⟨_, rfl, rfl⟩
  · rw [Memory.run_bind_crashed (Memory.run_setString_of_crashed h)]
    exact .inr ⟨_, rfl, rfl⟩

theorem worked_heartbeatIn (h0 : 0 ≤ (m.view s.keys user).score b) :
    s.Worked user b m (m.run (s.heartbeatIn user b)) := by
  unfold heartbeatIn
  rw [Memory.run_bind_ok (t := m) rfl]
  cases m.store.getString m.clock.now (s.keys.sessionMarker user) with
  | some text => exact worked_of_eq rfl rfl rfl rfl
  | none =>
      dsimp only
      rw [Memory.run_bind_ok (a := (m.view s.keys user).score b) (t := m) rfl]
      by_cases hp : (m.view s.keys user).score b ≤ 0
      · rw [if_pos hp]
        exact worked_of_eq rfl rfl rfl rfl
      · rw [if_neg hp, Memory.run_bind_ok (t := m) rfl, Memory.run_map _ fun _ => Accrual.expired _]
        exact worked_closeSession h0 (fun _ => rfl) (fun _ => rfl) rfl

end Events

theorem carried_changeFrom (s : Service) (user : String) (m : Memory) (previous range : Int) :
    let x := m.run (s.changeFrom user previous range)
    (x.1 = .ok () ∧
        View.Carried previous range (m.view s.keys user) (x.2.view s.keys user)) ∨
      ∃ c, x.1 = .crashed c ∧ c.isOverflow = true := by
  intro x
  by_cases he : previous = range
  · have hx : x = (.ok (), s.cacheRange user m range) := by
      show m.run (s.changeFrom user previous range) = _
      unfold changeFrom
      rw [if_pos he]
      rfl
    rw [hx]
    dsimp only
    rw [view_cacheRange]
    refine .inl ⟨rfl, rfl, fun b => ?_⟩
    rw [if_pos he, he]
    show (m.view s.keys user).score b = _
    split
    · rename_i hb
      rw [hb, Int.zero_add]
    · rfl
  · by_cases hfit : Signed64.Fits (s.joined user m previous range)
    · have hx : x = (.ok (), s.cacheRange user (s.moved user m previous range) range) := by
        show m.run (s.changeFrom user previous range) = _
        unfold changeFrom
        rw [if_neg he, Memory.run_bind_ok (s.run_moveAccrual_of_fits user hfit)]
        rfl
      rw [hx]
      dsimp only
      rw [view_cacheRange]
      have htaken (c : Int) : ((s.takenOut user m previous).view s.keys user).score c =
          if c = previous then 0 else (m.view s.keys user).score c := by
        unfold takenOut
        rw [Memory.view_dropMember, View.score_withScore]
        rfl
      have hjoined : s.joined user m previous range =
          (m.view s.keys user).score previous + (m.view s.keys user).score range := by
        have h := htaken range
        rw [if_neg (Ne.symm he)] at h
        rw [Int.add_comm, ← h]
        rfl
      refine .inl ⟨rfl, rfl, fun b => ?_⟩
      show ((s.moved user m previous range).view s.keys user).score b = _
      unfold moved
      rw [Memory.view_putScore, View.score_withScore, htaken, if_neg he, hjoined]
      rfl
    · have hx : x = (.crashed .addition, s.takenOut user m previous) := by
        show m.run (s.changeFrom user previous range) = _
        unfold changeFrom
        rw [if_neg he, Memory.run_bind_crashed (s.run_moveAccrual_of_not_fits user hfit)]
      rw [hx]
      exact .inr ⟨_, rfl, rfl⟩

/-! ## Requests while profiles cannot be read -/

/-- All seconds that have accrued for a user. -/
def seconds (s : Service) (user : String) (m : Memory) : Int :=
  (m.view s.keys user).total s.defaultRange

/-- Only the presence store matters. -/
theorem seconds_of_store {m' : Memory} (h : m'.store = m.store) :
    s.seconds user m' = s.seconds user m := by
  unfold seconds View.total View.astray View.seat View.score Memory.view
  rw [h]

/-- What a request has done to the seconds of a user. -/
structure Reckoned (s : Service) (user : String) (m : Memory) (e : Entry) (m' : Memory) : Prop where
  scattered : (m'.view s.keys user).Scattered s.defaultRange
  /-- The end of a session leaves what is astray, and nothing else. -/
  closing : e.closes user = true →
    e.flushed = s.seconds user m - s.astray user m' ∧ s.seconds user m' = s.astray user m'
  going : e.closes user = false → s.seconds user m' = s.seconds user m + e.gained user
  /-- Seconds go astray when another bucket than the default one, in which they are, is stored for
  the first time, and they come back when the default one is stored. -/
  strays : s.astray user m' = s.astray user m ∨
    (s.rangeText? m user = none ∧ s.chosenRange user m ≠ s.defaultRange ∧
      s.astray user m' = m.store.getScore (s.keys.accrualSet s.defaultRange) user) ∨
    e.request = .changeRange user s.defaultRange ∧ s.astray user m' = 0

/-- An event has asked for the alert range and then worked on the bucket of the user, unless a sum
or an instant has left its range. -/
def Evented (s : Service) (user : String) (m : Memory) (o : Outcome Accrual) (m' : Memory) : Prop :=
  (∃ v a, o = .ok a ∧ View.Asked (s.chosenRange user m) (m.view s.keys user) v ∧
      View.Worked (v.seat s.defaultRange) a v (m'.view s.keys user)) ∨
    ∃ c, o = .crashed c ∧ c.isOverflow = true

/-- What a request on the user has done to the seconds of the user, unless a sum or an instant has
left its range. -/
def Reckons (s : Service) (user : String) (r : Request) (m : Memory) (o : Outcome Report)
    (m' : Memory) : Prop :=
  Entry.overflowed ⟨r, o⟩ = false → s.Reckoned user m ⟨r, o⟩ m'

/-- A request that is no event, and has left all seconds where they were. -/
theorem Reckoned.of_seconds {e : Entry} {m' : Memory}
    (hs : (m'.view s.keys user).Scattered s.defaultRange) (hcl : e.closes user = false)
    (hg : e.gained user = 0) (ht : s.seconds user m' = s.seconds user m)
    (ha : s.astray user m' = s.astray user m ∨
      (s.rangeText? m user = none ∧ s.chosenRange user m ≠ s.defaultRange ∧
        s.astray user m' = m.store.getScore (s.keys.accrualSet s.defaultRange) user) ∨
      e.request = .changeRange user s.defaultRange ∧ s.astray user m' = 0) :
    s.Reckoned user m e m' := by
  refine ⟨hs, fun h => ?_, fun _ => ?_, ha⟩
  · rw [hcl] at h
    cases h
  · rw [hg, ht, Int.add_zero]

/-- A request of which the user does not notice anything. -/
theorem Reckoned.of_view {e : Entry} {m' : Memory}
    (hs : (m.view s.keys user).Scattered s.defaultRange) (hcl : e.closes user = false)
    (hg : e.gained user = 0) (hv : m'.view s.keys user = m.view s.keys user) :
    s.Reckoned user m e m' := by
  refine .of_seconds (hv ▸ hs) hcl hg ?_ (.inl ?_)
  · exact congrArg (View.total s.defaultRange) hv
  · exact congrArg (View.astray s.defaultRange) hv

/-! Once the alert range is known no profile is looked up. -/

theorem EventCall.not_isProfile {b : Int} {c : Call} (h : s.EventCall user b c) :
    ¬ c.IsProfile := by
  cases h <;> exact id

theorem only_changeFrom_unprofiled (previous range : Int) :
    (s.changeFrom user previous range).Only fun c => ¬ c.IsProfile := by
  have hl : (s.enlist user range).Only fun c => ¬ c.IsProfile :=
    Only.bind (only_ask id) fun _ => only_ask id
  unfold changeFrom
  dsimp only
  split
  · exact hl
  · refine Only.bind ?_ fun _ => hl
    refine Only.bind (only_ask id) fun _ => Only.bind (only_ask id) fun _ => ?_
    exact Only.bind (only_ask id) fun _ => only_pure _

section Requests

variable (h : (T.memory.view s.keys user).Scattered s.defaultRange) (hr : s.RangesFit T.memory)
include h hr

/-- What follows the alert range is an event on the bucket of the user. -/
theorem evented_resolve {p : Int → Operation Accrual} (hp : ∀ b, (p b).Only (s.EventCall user b))
    (hw : ∀ (m : Memory) (b : Int), 0 ≤ (m.view s.keys user).score b →
      s.Worked user b m (m.run (p b))) :
    (s.resolve user >>= p).Keeps (Trail.refusing Call.IsProfile)
      (fun o T' => s.Evented user T.memory o T'.memory) T := by
  refine keeps_bind.2 ((keeps_resolve_outage h hr).mono ?_)
  rintro o T' ⟨rfl, ha⟩
  obtain ⟨h0, hf⟩ := hr.chosenRange user
  have hnonneg := (h.asked h0 hf ha).1.nonneg
  refine Trail.keeps_of_run (R := s.Evented user T.memory)
    ((hp _).mono fun _ => EventCall.not_isProfile) ?_
  rcases hw T'.memory _ (hnonneg _) with ⟨a, ho, hv⟩ | hc
  · exact .inl ⟨_, a, ho, ha, hv⟩
  · exact .inr hc

theorem evented_onActivity : (s.onActivity user).Keeps (Trail.refusing Call.IsProfile)
    (fun o T' => s.Evented user T.memory o T'.memory) T := by
  rw [onActivity_eq]
  refine Trail.keeps_bind_of_served id (a := T.memory.clock.now) rfl ?_
  exact evented_resolve (T := ⟨T.memory, ⟨.now, T.memory, none⟩ :: T.calls⟩) h hr
    (fun b => only_activityIn b _) fun m b h0 => worked_activityIn h0

theorem evented_onHeartbeat : (s.onHeartbeat user).Keeps (Trail.refusing Call.IsProfile)
    (fun o T' => s.Evented user T.memory o T'.memory) T := by
  rw [onHeartbeat_eq]
  exact evented_resolve h hr only_heartbeatIn fun m b h0 => worked_heartbeatIn h0

/-- An event is reckoned in the entry of its request. -/
theorem Evented.reckons {r : Request} {o : Outcome Accrual} {m' : Memory}
    (he : s.Evented user T.memory o m') (hreq : r = .activity user ∨ r = .heartbeat user) :
    s.Reckons user r T.memory (o.map .accrual) m' := by
  intro ho
  rcases he with ⟨v, a, rfl, ha, hw⟩ | ⟨c, rfl, hc⟩
  · obtain ⟨h0, hf⟩ := hr.chosenRange user
    obtain ⟨h1, htotal, hstray⟩ := h.asked h0 hf ha
    obtain ⟨h2, hastray, hnew⟩ := h1.worked hw
    have hcloses : Entry.closes user ⟨r, .ok (.accrual a)⟩ = a.closes := by
      rcases hreq with rfl | rfl <;> simp [Entry.closes, Entry.accrual?]
    have hgained : Entry.gained user ⟨r, .ok (.accrual a)⟩ = a.gained := by
      rcases hreq with rfl | rfl <;> simp [Entry.gained, Entry.accrual?]
    -- before and after the event the seconds of the user are in its bucket or astray
    have hbefore : s.seconds user T.memory =
        v.score (v.seat s.defaultRange) + v.astray s.defaultRange := htotal.symm
    have hafter : s.seconds user m' =
        (if a.closes then 0 else v.score (v.seat s.defaultRange) + a.gained) +
          v.astray s.defaultRange := hnew
    have hsame : s.astray user m' = v.astray s.defaultRange := hastray
    refine ⟨h2, fun hcl => ?_, fun hcl => ?_, ?_⟩
    · rw [hcloses.symm.trans hcl, if_pos rfl] at hafter
      have hflushed := hw.flushed (hcloses.symm.trans hcl)
      refine ⟨?_, by omega⟩
      show a.flushed = _
      omega
    · rw [hcloses.symm.trans hcl, if_neg Bool.false_ne_true] at hafter
      show _ = _ + Entry.gained user ⟨r, .ok (.accrual a)⟩
      rw [hgained]
      omega
    · rw [hsame]
      exact hstray.imp_right .inl
  · rw [show Entry.overflowed _ = c.isOverflow from rfl, hc] at ho
    cases ho

omit hr in
/-- A request that is no event, and has only asked for the alert range. -/
theorem Reckoned.of_asked (hr : s.RangesFit T.memory) {e : Entry} {m' : Memory}
    (ha : View.Asked (s.chosenRange user T.memory) (T.memory.view s.keys user)
      (m'.view s.keys user)) (hcl : e.closes user = false) (hg : e.gained user = 0) :
    s.Reckoned user T.memory e m' := by
  obtain ⟨h0, hf⟩ := hr.chosenRange user
  obtain ⟨h1, htotal, hstray⟩ := h.asked h0 hf ha
  exact .of_seconds h1 hcl hg htotal (hstray.imp_right .inl)

theorem reckons_changeRange {range : Int} (hfit : Signed64.Fits range) :
    (s.perform (.changeRange user range)).Keeps (Trail.refusing Call.IsProfile)
      (fun o T' => s.Reckons user (.changeRange user range) T.memory o T'.memory) T := by
  refine Keeps.map (fun _ => Report.changed) ?_
  rw [changeRange_eq]
  split
  · -- a range that is not positive is rejected at once
    exact fun _ => .of_view h rfl rfl rfl
  · rename_i hpos
    refine keeps_bind.2 ((keeps_resolve_outage h hr).mono ?_)
    rintro o T' ⟨rfl, ha⟩
    refine Trail.keeps_of_run (R := fun o m' => s.Reckons user (.changeRange user range) T.memory
      (o.map fun _ => .changed) m') (only_changeFrom_unprofiled _ _) ?_
    obtain ⟨h0, hf⟩ := hr.chosenRange user
    obtain ⟨h1, htotal, hstray⟩ := h.asked h0 hf ha
    have hreckons (x : Outcome Unit × Memory)
        (hx : (x.1 = .ok () ∧ View.Carried ((T'.memory.view s.keys user).seat s.defaultRange) range
          (T'.memory.view s.keys user) (x.2.view s.keys user)) ∨
            ∃ c, x.1 = .crashed c ∧ c.isOverflow = true) :
        s.Reckons user (.changeRange user range) T.memory (x.1.map fun _ => .changed) x.2 := by
      obtain ⟨o, m'⟩ := x
      intro hover
      rcases hx with ⟨rfl, hc⟩ | ⟨c, rfl, hc⟩
      · obtain ⟨h2, htotal', hastray⟩ := h1.carried (Int.not_le.1 hpos) hfit hc
        refine .of_seconds h2 rfl rfl (htotal'.trans htotal) ?_
        by_cases hd : range = s.defaultRange
        · rw [if_pos hd] at hastray
          exact .inr (.inr ⟨congrArg _ hd, hastray⟩)
        · -- what was astray stays so
          rw [if_neg hd] at hastray
          rw [show s.astray user m' = _ from hastray]
          exact hstray.imp_right .inl
      · rw [show Entry.overflowed _ = c.isOverflow from rfl, hc] at hover
        cases hover
    exact hreckons _ (carried_changeFrom s user T'.memory _ range)

theorem reckons_perform {r : Request} (hin : r.InRange) :
    (s.perform r).Keeps (Trail.refusing Call.IsProfile)
      (fun o T' => s.Reckons user r T.memory o T'.memory) T := by
  by_cases hu : r.user? = some user
  · cases r with
    | activity u =>
        obtain rfl := Option.some.inj hu
        refine Keeps.map Report.accrual ((evented_onActivity h hr).mono fun o T' he => ?_)
        exact he.reckons h hr (.inl rfl)
    | heartbeat u =>
        obtain rfl := Option.some.inj hu
        refine Keeps.map Report.accrual ((evented_onHeartbeat h hr).mono fun o T' he => ?_)
        exact he.reckons h hr (.inr rfl)
    | changeRange u range =>
        obtain rfl := Option.some.inj hu
        exact reckons_changeRange h hr hin
    | resolve u =>
        obtain rfl := Option.some.inj hu
        refine Keeps.map Report.range ((keeps_resolve_outage h hr).mono ?_)
        rintro o T' ⟨rfl, ha⟩
        exact fun _ => .of_asked h hr ha rfl rfl
    | liveAccrual u =>
        obtain rfl := Option.some.inj hu
        refine Keeps.map Report.seconds (keeps_bind.2 ((keeps_resolve_outage h hr).mono ?_))
        rintro o T' ⟨rfl, ha⟩
        refine Trail.keeps_of_run (p := getScore _ u) (R := fun (o : Outcome Int) m' =>
          s.Reckons u (.liveAccrual u) T.memory (o.map .seconds) m') (only_ask id) ?_
        exact fun _ => .of_asked h hr ha rfl rfl
    | knownBuckets => cases hu
    | scan job => cases hu
  · -- the user does not notice the requests of others
    have hkeeps : (s.perform r).Keeps (Trail.refusing Call.IsProfile)
        (fun _ T' => T'.memory.view s.keys user = T.memory.view s.keys user) T :=
      Trail.keeps_of_only (I := fun m => m.view s.keys user = T.memory.view s.keys user)
        (fun c m refused hc hm => (Scene.view_after_other hu hc m refused).trans hm)
        (s.only_callFor r) rfl
    exact hkeeps.mono fun o T' hv _ =>
      .of_view h (Entry.closes_eq_false hu) (Entry.gained_eq_zero hu) hv

end Requests

/-! ## Requests one after another -/

/-- If the last request has ended a session of the user, it has told the seconds that the user has
gained since the session before was ended, and the user has no seconds left. -/
def Settles (s : Service) (user : String) (x : List Entry × Trail) : Prop :=
  ∀ e ∈ x.1.getLast?, e.closes user = true →
    e.flushed = sinceClosing user x.1.dropLast ∧
      ∀ b, x.2.memory.store.getScore (s.keys.accrualSet b) user ≤ 0

/-- If the last request has ended a session of the user, it has left no seconds astray. -/
def LeavesNoneAstray (s : Service) (user : String) (x : List Entry × Trail) : Prop :=
  ∀ e ∈ x.1.getLast?, e.closes user = true → s.astray user x.2.memory = 0

/-- Seconds have gone astray when another bucket than the default one, in which they stand, was
stored for the first time, and have come back when the default one was stored. -/
def Strays (s : Service) (user : String) (m : Memory) (h : Happening) (m' : Memory) : Prop :=
  s.astray user m' = s.astray user m ∨
    (s.rangeText? m user = none ∧ s.chosenRange user m ≠ s.defaultRange ∧
      s.astray user m' = m.store.getScore (s.keys.accrualSet s.defaultRange) user) ∨
    h = .request (.changeRange user s.defaultRange) ∧ s.astray user m' = 0

section Runs

variable {f : Refusals} {m₀ : Memory} {hs : List Happening}

/-- What the requests so far have left: the user is in order, and so are the alert ranges. -/
structure Orderly (s : Service) (user : String) (T : Trail) : Prop where
  scattered : (T.memory.view s.keys user).Scattered s.defaultRange
  ranges : s.RangesFit T.memory

/-- One thing that happens is a request that is reckoned, or it leaves the seconds alone. -/
theorem Orderly.happen (h : s.Orderly user T) (hf : f.Within Call.IsProfile) {a : Happening}
    (hin : a.InRange) (ho : ∀ e ∈ (T.happen s f a).1, e.overflowed = false) :
    s.Orderly user (T.happen s f a).2 ∧
      s.Strays user T.memory a (T.happen s f a).2.memory ∧
      ((∃ e, (T.happen s f a).1 = [e] ∧
          s.Reckoned user T.memory e (T.happen s f a).2.memory) ∨
        (T.happen s f a).1 = [] ∧ (T.happen s f a).2.memory.store = T.memory.store) := by
  have hr := Trail.ranges_happen h.ranges f hin
  have hs := h.scattered
  cases a with
  | request r =>
      have hrec := Trail.run_of_keeps hf (reckons_perform h.scattered h.ranges (r := r) hin)
        (ho _ List.mem_cons_self)
      refine ⟨⟨hrec.scattered, hr⟩, ?_, .inl ⟨_, rfl, hrec⟩⟩
      exact hrec.strays.imp_right (Or.imp_right fun e => ⟨congrArg _ e.1, e.2⟩)
  | profile u r =>
      exact ⟨⟨⟨hs.named, hs.nonneg, hs.elsewhere⟩, hr⟩, .inl rfl, .inr ⟨rfl, rfl⟩⟩
  | clock t => exact ⟨⟨⟨hs.named, hs.nonneg, hs.elsewhere⟩, hr⟩, .inl rfl, .inr ⟨rfl, rfl⟩⟩

theorem score_of_empty (hstore : m.store = {}) (b : Int) : (m.view s.keys user).score b = 0 := by
  show m.store.getScore _ _ = 0
  rw [hstore]
  rfl

theorem orderly_of_empty (hstore : m₀.store = {}) (hr : s.RangesFit m₀) :
    s.Orderly user ⟨m₀, []⟩ := by
  refine ⟨⟨fun e he => ?_, fun b => ?_, fun b _ _ => ?_⟩, hr⟩
  · have he' : m₀.store.strings.get? (s.keys.alertRange user) = some e := he
    rw [hstore] at he'
    cases he'
  · exact Int.le_of_eq (score_of_empty hstore b).symm
  · exact score_of_empty hstore b

theorem orderly_proceed {T : Trail} (h : s.Orderly user T) (hf : f.Within Call.IsProfile)
    (hin : ∀ a ∈ hs, a.InRange) (ho : ∀ e ∈ (T.proceed s f hs).1, e.overflowed = false) :
    s.Orderly user (T.proceed s f hs).2 := by
  induction hs generalizing T with
  | nil => exact h
  | cons a rest ih =>
      have h1 := (h.happen hf (hin a List.mem_cons_self) fun e he =>
        ho e (List.mem_append_left _ he)).1
      exact ih h1 (fun k hk => hin k (List.mem_cons_of_mem _ hk)) fun e he =>
        ho e (List.mem_append_right _ he)

/-- As long as no end of a session leaves seconds astray, the seconds of the user are those gained
since the last end, and every end settles. -/
theorem seconds_eq_sinceClosing {T : Trail} (h : s.Orderly user T)
    (h0 : s.seconds user T.memory = 0) (hf : f.Within Call.IsProfile) (hin : ∀ a ∈ hs, a.InRange)
    (ho : ∀ e ∈ (T.proceed s f hs).1, e.overflowed = false)
    (hn : ∀ pre, pre <+: hs → s.LeavesNoneAstray user (T.proceed s f pre)) :
    s.seconds user (T.proceed s f hs).2.memory = sinceClosing user (T.proceed s f hs).1 ∧
      s.Settles user (T.proceed s f hs) := by
  induction hs using List.reverseRecOn with
  | nil =>
      refine ⟨h0, fun e he => ?_⟩
      cases he
  | append_singleton hs a ih =>
      have hlast := hn _ (List.prefix_refl _)
      have hpre : hs <+: hs ++ [a] := List.prefix_append hs [a]
      rw [Trail.proceed_concat] at ho hlast ⊢
      have ho₁ : ∀ e ∈ (T.proceed s f hs).1, e.overflowed = false :=
        fun e he => ho e (List.mem_append_left _ he)
      have hin₁ : ∀ k ∈ hs, k.InRange := fun k hk => hin k (List.mem_append_left _ hk)
      obtain ⟨hsec, hset⟩ := ih hin₁ ho₁ fun pre hp => hn pre (hp.trans hpre)
      have hord := orderly_proceed h hf hin₁ ho₁
      generalize T.proceed s f hs = x at *
      obtain ⟨es, T₁⟩ := x
      obtain ⟨hord', -, hrec⟩ := hord.happen hf (hin a (by simp))
        fun e he => ho e (List.mem_append_right _ he)
      generalize T₁.happen s f a = y at *
      obtain ⟨fs, T₂⟩ := y
      dsimp only at *
      rcases hrec with ⟨e, rfl, hrec⟩ | ⟨rfl, hstore⟩
      · rw [sinceClosing_concat]
        unfold Settles LeavesNoneAstray at *
        simp only [List.getLast?_concat, List.dropLast_concat, Option.mem_some_iff] at hlast ⊢
        cases hcl : e.closes user with
        | true =>
            -- nothing is astray, so all seconds were told
            obtain ⟨hfl, hleft⟩ := hrec.closing hcl
            have hzero := hlast e rfl hcl
            rw [hzero] at hleft hfl
            refine ⟨hleft, ?_⟩
            rintro e' rfl -
            refine ⟨by omega, fun b => Int.le_of_eq ?_⟩
            exact hrec.scattered.score_eq_zero hleft b
        | false =>
            rw [if_neg Bool.false_ne_true, hrec.going hcl, hsec]
            refine ⟨rfl, ?_⟩
            rintro e' rfl hcl'
            rw [hcl] at hcl'
            cases hcl'
      · rw [List.append_nil]
        refine ⟨(seconds_of_store hstore).trans hsec, ?_⟩
        unfold Settles at hset ⊢
        rw [hstore]
        exact hset

end Runs

/-- Whatever happens from empty stores on, one thing after another, and whatever profiles cannot be
read: every end of a session of a user has told the seconds that the user has gained since the end
before, and the user has no seconds left, exactly if no end of a session leaves seconds astray.
Seconds go astray only where another bucket than the default one, in which they were put while the
profile could not be read, is stored. -/
theorem settles_iff_leavesNoneAstray (s : Service) {m₀ : Memory} (hstore : m₀.store = {})
    (hranges : s.RangesFit m₀) {f : Refusals} (hf : f.Within Call.IsProfile) (hs : List Happening)
    (hin : ∀ a ∈ hs, a.InRange)
    (ho : ∀ e ∈ ((⟨m₀, []⟩ : Trail).proceed s f hs).1, e.overflowed = false) (user : String) :
    ((∀ pre, pre <+: hs → s.Settles user ((⟨m₀, []⟩ : Trail).proceed s f pre)) ↔
        ∀ pre, pre <+: hs → s.LeavesNoneAstray user ((⟨m₀, []⟩ : Trail).proceed s f pre)) ∧
      ∀ pre a, pre ++ [a] <+: hs →
        s.Strays user ((⟨m₀, []⟩ : Trail).proceed s f pre).2.memory a
          ((⟨m₀, []⟩ : Trail).proceed s f (pre ++ [a])).2.memory := by
  have h : s.Orderly user ⟨m₀, []⟩ := orderly_of_empty hstore hranges
  have h0 : s.seconds user (⟨m₀, []⟩ : Trail).memory = 0 := by
    unfold seconds View.total View.astray
    simp only [score_of_empty hstore, ite_self, Int.add_zero]
  generalize (⟨m₀, []⟩ : Trail) = T at *
  -- what holds of the whole run holds of its beginnings
  have hin' : ∀ pre, pre <+: hs → ∀ a ∈ pre, a.InRange := fun pre hp a ha => hin a (hp.subset ha)
  have ho' : ∀ pre, pre <+: hs → ∀ e ∈ (T.proceed s f pre).1, e.overflowed = false := by
    rintro pre ⟨rest, rfl⟩ e he
    rw [Trail.proceed_append] at ho
    exact ho e (List.mem_append_left _ he)
  refine ⟨⟨fun hset pre hp e he hcl => ?_, fun hn pre hp => ?_⟩, fun pre a hp => ?_⟩
  · obtain ⟨-, hleft⟩ := hset pre hp e he hcl
    have hord := orderly_proceed h hf (hin' pre hp) (ho' pre hp)
    unfold astray View.astray
    split
    · rfl
    · exact Int.le_antisymm (hleft _) (hord.scattered.nonneg _)
  · exact (seconds_eq_sinceClosing h h0 hf (hin' pre hp) (ho' pre hp)
      fun pre' hp' => hn pre' (hp'.trans hp)).2
  · have hpre : pre <+: hs := (List.prefix_append pre [a]).trans hp
    have ho₁ := ho' _ hp
    rw [Trail.proceed_concat] at ho₁ ⊢
    exact ((orderly_proceed h hf (hin' pre hpre) (ho' pre hpre)).happen hf
      (hin' _ hp a (by simp)) fun e he => ho₁ e (List.mem_append_right _ he)).2.1

/-- Looking up a profile fails among the first calls. -/
def profilesDown (n : Nat) : Refusals := fun k c =>
  match c with
  | .profile _ => if k < n then some (.reported "profiles down") else none
  | _ => none

theorem within_profilesDown (n : Nat) : (profilesDown n).Within Call.IsProfile := by
  intro k c h
  cases c with
  | profile u => exact True.intro
  | _ => exact absurd rfl h

/-- Two activities, half a minute apart, of a user who has chosen seven minutes. -/
def chosenSeven : List Happening :=
  [.profile "ada" 7, .request (.activity "ada"), .clock (Clock.afterNoon 30),
    .request (.activity "ada")]

/-- A third activity goes on with the session. The user goes back to the default range before the
session ends. -/
def backToDefault : List Happening :=
  chosenSeven ++ [.clock (Clock.afterNoon 60), .request (.activity "ada"),
    .request (.changeRange "ada" 5), .clock (Clock.afterNoon 160), .request (.activity "ada")]

/-- A third activity finds the session ended. -/
def endedAfterOutage : List Happening :=
  chosenSeven ++ [.clock (Clock.afterNoon 91), .request (.activity "ada")]

theorem settles_iff_leavesNoneAstray_backToDefault :
    (∀ pre, pre <+: backToDefault → standard.Settles "ada"
      ((⟨Memory.fresh Clock.noon, []⟩ : Trail).proceed standard (profilesDown 14) pre)) ∧
    standard.astray "ada" ((⟨Memory.fresh Clock.noon, []⟩ : Trail).proceed standard
      (profilesDown 14) (backToDefault.take 6)).2.memory = 30 := by
  have hranges : standard.RangesFit (Memory.fresh Clock.noon) := .fresh (by decide) (by decide) _
  have h := settles_iff_leavesNoneAstray standard rfl hranges (within_profilesDown 14)
    backToDefault (by decide) (by decide +kernel) "ada"
  refine ⟨h.1.2 fun pre hp => ?_, by decide +kernel⟩
  have hall : ∀ pre ∈ backToDefault.inits, ∀ e ∈ ((⟨Memory.fresh Clock.noon, []⟩ : Trail).proceed
      standard (profilesDown 14) pre).1.getLast?, e.closes "ada" = true →
        standard.astray "ada" ((⟨Memory.fresh Clock.noon, []⟩ : Trail).proceed
          standard (profilesDown 14) pre).2.memory = 0 := by
    decide +kernel
  exact hall pre ((List.mem_inits _ _).2 hp)

/-- The seconds that were put in the default bucket while the profile could not be read stay there
when another bucket is stored, and no end of a session tells them. -/
theorem orphaned_by_profileOutage :
    ¬ ∀ (s : Service) (m₀ : Memory), m₀.store = {} → m₀.ledger = {} → s.RangesFit m₀ →
      ∀ f : Refusals, f.Within Call.IsProfile →
      ∀ hs : List Happening, (∀ a ∈ hs, a.InRange) →
        (∀ e ∈ ((⟨m₀, []⟩ : Trail).proceed s f hs).1, e.overflowed = false) →
      ∀ (user : String) (pre : List Happening), pre <+: hs →
        s.Settles user ((⟨m₀, []⟩ : Trail).proceed s f pre) := by
  intro h
  have hset := h standard (Memory.fresh Clock.noon) rfl rfl
    (.fresh (by decide) (by decide) _) (profilesDown 14) (within_profilesDown 14)
    endedAfterOutage (by decide) (by decide +kernel) "ada" endedAfterOutage (List.prefix_refl _)
  -- the last activity has ended the session, and tells nothing of the thirty seconds
  have hlast := hset ⟨.activity "ada", .ok (.accrual (.started 0))⟩ (by decide +kernel)
    (by decide +kernel)
  exact absurd hlast.1 (by decide +kernel)

end Service

end Presence
