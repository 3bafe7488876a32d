import Presence.Proofs.Unranged

/-!
# How old a session marker can be

A session marker is written by the activities of its user and by nothing else: heartbeats, ends of
sessions, changes of the alert range and scans leave it alone. It expires a fixed time after the
activity. Main statement: `Service.active_of_marker`, if the clock never goes back, then a marker
that can still be read tells of an activity that is no older than this time.
-/

set_option autoImplicit false

namespace Presence

open Operation Program

/-- The clock never goes back while things happen. -/
def Memory.Forward (s : Service) : List Happening → Memory → Prop
  | [], _ => True
  | h :: rest, m =>
    m.clock.now ≤ (m.happen s h).2.clock.now ∧ Forward s rest (m.happen s h).2

instance Memory.decidableForward (s : Service) :
    ∀ (hs : List Happening) (m : Memory), Decidable (Memory.Forward s hs m)
  | [], _ => isTrue True.intro
  | h :: rest, m =>
    have := decidableForward s rest (m.happen s h).2
    inferInstanceAs (Decidable (_ ∧ _))

theorem Memory.forward_concat {s : Service} {hs : List Happening} {h : Happening} {m : Memory} :
    Memory.Forward s (hs ++ [h]) m ↔ Memory.Forward s hs m ∧
      (m.proceed s hs).2.clock.now ≤ ((m.proceed s hs).2.happen s h).2.clock.now := by
  induction hs generalizing m with
  | nil => exact ⟨fun hm => ⟨True.intro, hm.1⟩, fun hm => ⟨hm.2, True.intro⟩⟩
  | cons x rest ih =>
      show (_ ∧ Memory.Forward s (rest ++ [h]) _) ↔ (_ ∧ Memory.Forward s rest _) ∧ _
      rw [ih, and_assoc]
      exact Iff.rfl

theorem Signed64.ofUnsigned_le (n : Nat) : Signed64.ofUnsigned n ≤ n := by
  unfold Signed64.ofUnsigned
  split <;> omega

namespace Service

variable {s : Service} {user : String} {m m₀ : Memory} {hs : List Happening} {α : Type}

/-- Among the things that happen is an activity of the user at an instant. -/
def ActiveAt (s : Service) (m₀ : Memory) (hs : List Happening) (user : String) (t : Instant) :
    Prop :=
  ∃ before after, hs = before ++ .request (.activity user) :: after ∧
    (m₀.proceed s before).2.clock.now = t

theorem ActiveAt.concat {t : Instant} (h : s.ActiveAt m₀ hs user t) (x : Happening) :
    s.ActiveAt m₀ (hs ++ [x]) user t := by
  obtain ⟨before, after, rfl, ht⟩ := h
  exact ⟨before, after ++ [x], by rw [List.append_assoc, List.cons_append], ht⟩

theorem marker_run {p : Operation α} (hp : p.Only fun c => c.isMark s user = false) (m : Memory) :
    s.marker (m.run p).2 user = s.marker m user := by
  induction p generalizing m with
  | done o => rfl
  | call c next ih => exact (ih _ (hp.2 _) _).trans (marker_serve hp.1 m)

/-- After an activity the marker expires a fixed time later, or the activity has crashed and left
the marker as it was. -/
theorem marker_onActivity (m : Memory) :
    (∃ text x, s.marker (m.run (s.onActivity user)).2 user = some ⟨text, some x⟩ ∧
      x.millis = m.clock.now.millis + 1000 * Signed64.ofUnsigned s.session.markerSeconds) ∨
    s.marker (m.run (s.onActivity user)).2 user = s.marker m user := by
  have hcrash (c : Crash)
      (h : m.clock.now.after (Signed64.ofUnsigned s.session.markerSeconds) = .crashed c) :
      s.marker (m.run (s.onActivity user)).2 user = s.marker m user := by
    rw [s.run_onActivity_of_crashed user h]
    exact s.marker_resolved m user user
  rcases m.clock.now.after_cases (Signed64.ofUnsigned s.session.markerSeconds) with
    ⟨x, hx, hmillis⟩ | h | h
  · refine .inl ⟨toString m.clock.now.millis, x, ?_, hmillis⟩
    rw [s.run_onActivity_of_ok user hx]
    -- what follows the renewal makes no mark
    refine (marker_run ((only_judge user _ _ _ _).mono fun c hc => hc.isMark) _).trans ?_
    exact s.marker_putString _ user _ _
  · exact .inr (hcrash _ h)
  · exact .inr (hcrash _ h)

/-- A marker that expires a fixed time after an activity of the past. -/
def Dated (s : Service) (m₀ : Memory) (hs : List Happening) (user : String) (now : Instant)
    (e : StoredText) : Prop :=
  ∃ t x, s.ActiveAt m₀ hs user t ∧ t ≤ now ∧ e.expires = some x ∧
    x.millis = t.millis + 1000 * Signed64.ofUnsigned s.session.markerSeconds

theorem Dated.concat {now now' : Instant} {e : StoredText} (h : s.Dated m₀ hs user now e)
    (hle : now ≤ now') (x : Happening) : s.Dated m₀ (hs ++ [x]) user now' e := by
  obtain ⟨t, y, hactive, ht, hy, hmillis⟩ := h
  exact ⟨t, y, hactive.concat x, Int.le_trans ht hle, hy, hmillis⟩

/-- One thing that happens keeps the marker of a user, or it is an activity that dates it. -/
theorem marker_happen (s : Service) (user : String) (h : Happening) (m : Memory) :
    s.marker (m.happen s h).2 user = s.marker m user ∨
      h = .request (.activity user) ∧ ∃ text x,
        s.marker (m.happen s h).2 user = some ⟨text, some x⟩ ∧
          x.millis = m.clock.now.millis + 1000 * Signed64.ofUnsigned s.session.markerSeconds := by
  cases h with
  | profile v r => exact .inl rfl
  | clock t => exact .inl rfl
  | request r =>
      by_cases hr : r = .activity user
      · subst hr
        have hmap : (m.run (s.perform (.activity user))).2 = (m.run (s.onActivity user)).2 :=
          congrArg (·.2) (Memory.run_map (m := m) (s.onActivity user) Report.accrual)
        show s.marker (m.run (s.perform (.activity user))).2 user = _ ∨ _ ∧ ∃ text x,
          s.marker (m.run (s.perform (.activity user))).2 user = _ ∧ _
        rw [hmap]
        exact (marker_onActivity m).symm.imp_right fun h => ⟨rfl, h⟩
      · exact .inl (marker_run (only_perform_isMark hr) m)

/-- Whatever has happened, one thing after another: a marker is dated by an activity. -/
theorem dated_proceed (hnone : s.marker m₀ user = none) (hclock : m₀.Forward s hs) {e : StoredText}
    (he : s.marker (m₀.proceed s hs).2 user = some e) :
    s.Dated m₀ hs user (m₀.proceed s hs).2.clock.now e := by
  induction hs using List.reverseRecOn generalizing e with
  | nil =>
      rw [show (m₀.proceed s []).2 = m₀ from rfl, hnone] at he
      cases he
  | append_singleton rest x ih =>
      obtain ⟨hrest, hlast⟩ := Memory.forward_concat.1 hclock
      have hproceed : (m₀.proceed s (rest ++ [x])).2 = ((m₀.proceed s rest).2.happen s x).2 := by
        rw [Memory.proceed_append]
        rfl
      rw [hproceed] at he ⊢
      rcases s.marker_happen user x (m₀.proceed s rest).2 with
        hsame | ⟨rfl, text, y, hmark, hmillis⟩
      · exact (ih hrest (hsame ▸ he)).concat hlast x
      · -- the activity that has just happened
        rw [hmark] at he
        cases he
        exact ⟨_, y, ⟨rest, [], rfl, rfl⟩, hlast, rfl, hmillis⟩

/-- A marker that can be read tells of an activity that is no older than the lifetime of markers. -/
theorem active_of_marker (hnone : s.marker m₀ user = none) (hclock : m₀.Forward s hs)
    {e : StoredText} (he : s.marker (m₀.proceed s hs).2 user = some e)
    (halive : ∀ x, e.expires = some x → (m₀.proceed s hs).2.clock.now ≤ x) :
    ∃ t, s.ActiveAt m₀ hs user t ∧ t ≤ (m₀.proceed s hs).2.clock.now ∧
      (m₀.proceed s hs).2.clock.now.millis - t.millis ≤ 1000 * s.session.markerSeconds := by
  obtain ⟨t, x, hactive, hle, hx, hmillis⟩ := dated_proceed hnone hclock he
  refine ⟨t, hactive, hle, ?_⟩
  have hnow : (m₀.proceed s hs).2.clock.now.millis ≤ x.millis := halive x hx
  have hword := Signed64.ofUnsigned_le s.session.markerSeconds
  omega

end Service

end Presence
