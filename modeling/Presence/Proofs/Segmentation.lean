import Mathlib.Algebra.Order.BigOperators.Group.List
import Mathlib.Algebra.Ring.Int.Defs
import Mathlib.Data.List.SplitBy
import Presence.Session

/-!
# Sessions of a list of events

The times of activity are cut into sessions where two of them are too far apart
(`SessionPolicy.sessions`). A session is over at the first event that shows that it is, and the
seconds of the sessions that are over are written under the time of this event
(`SessionPolicy.written`). Main statement: `SessionPolicy.tally_eq`, going through the events once,
with nothing in mind but the last activity and the pending seconds, finds the same.
-/

set_option autoImplicit false

namespace Presence

/-- An event of one user at an instant. -/
structure TimedEvent where
  time : Instant
  kind : ActivityKind
  deriving DecidableEq

/-- The times of activity among events. -/
def activityTimes (es : List TimedEvent) : List Instant :=
  (es.filter fun e => e.kind = .activity).map (·.time)

/-- The whole seconds between each activity and the next one of a session, added up. -/
def onlineSeconds : List Instant → Int
  | a :: b :: rest => (b.millis - a.millis) / 1000 + onlineSeconds (b :: rest)
  | _ => 0

namespace SessionPolicy

variable (p : SessionPolicy)

/-- Two consecutive activities belong to two sessions. -/
def isBoundary (a b : Instant) : Bool :=
  decide (p.gapSeconds * 1000 ≤ b.millis - a.millis) ||
    decide (p.markerSeconds * 1000 < b.millis - a.millis)

theorem isBoundary_iff {a b : Instant} : p.isBoundary a b = true ↔
    p.gapSeconds * 1000 ≤ b.millis - a.millis ∨ p.markerSeconds * 1000 < b.millis - a.millis := by
  unfold isBoundary
  rw [Bool.or_eq_true_iff, decide_eq_true_iff, decide_eq_true_iff]

/-- The times of activity, cut at the boundaries. -/
def sessions (times : List Instant) : List (List Instant) :=
  times.splitBy fun a b => !p.isBoundary a b

/-- An event shows that the session whose last activity is given is over. -/
def isEnd (last : Instant) (e : TimedEvent) : Bool :=
  match e.kind with
  | .activity => decide (last.millis < e.time.millis)
  | .heartbeat => decide (p.markerSeconds * 1000 < e.time.millis - last.millis)

/-- The first event that shows that a session is over. -/
def endOf? (es : List TimedEvent) (session : List Instant) : Option TimedEvent :=
  session.getLast?.bind fun last => es.find? (p.isEnd last)

/-- The session with the time of the event that ends it. -/
def closure? (es : List TimedEvent) (session : List Instant) : Option (Instant × Int) :=
  (p.endOf? es session).map fun e => (e.time, onlineSeconds session)

/-- What is to be written: the seconds of every session that is over and has any, with the time of
the event that ends it. -/
def written (es : List TimedEvent) : List (Instant × Int) :=
  ((p.sessions (activityTimes es)).filterMap (p.closure? es)).filter fun w => 0 < w.2

/-- The session of the last activity. -/
def lastSession (es : List TimedEvent) : List Instant :=
  (p.sessions (activityTimes es)).getLastD []

/-- The seconds of the last session as long as it is not over. -/
def pending (es : List TimedEvent) : Int :=
  if (p.endOf? es (p.lastSession es)).isNone then onlineSeconds (p.lastSession es) else 0

end SessionPolicy

/-! ## One event after another -/

/-- What is kept in mind while the events are gone through. -/
structure Tally where
  last : Option Instant
  pending : Int
  written : List (Instant × Int)

/-- Seconds to be written at an instant, if there are any. -/
def positive (t : Instant) (seconds : Int) : List (Instant × Int) :=
  [(t, seconds)].filter fun w => 0 < w.2

/-- The tally after one more event. -/
def Tally.step (p : SessionPolicy) (T : Tally) (e : TimedEvent) : Tally :=
  match T.last, e.kind with
  | none, .activity => ⟨some e.time, 0, T.written⟩
  | none, .heartbeat => T
  | some a, .activity =>
    if p.isBoundary a e.time then ⟨some e.time, 0, T.written ++ positive e.time T.pending⟩
    else ⟨some e.time, T.pending + (e.time.millis - a.millis) / 1000, T.written⟩
  | some a, .heartbeat =>
    if p.markerSeconds * 1000 < e.time.millis - a.millis then
      ⟨some a, 0, T.written ++ positive e.time T.pending⟩
    else T

theorem Tally.step_of_boundary {p : SessionPolicy} {T : Tally} {a t : Instant}
    (hl : T.last = some a) (hb : p.isBoundary a t = true) :
    T.step p ⟨t, .activity⟩ = ⟨some t, 0, T.written ++ positive t T.pending⟩ := by
  unfold step
  rw [hl]
  dsimp only
  rw [if_pos hb]

theorem Tally.step_of_not_boundary {p : SessionPolicy} {T : Tally} {a t : Instant}
    (hl : T.last = some a) (hb : p.isBoundary a t = false) :
    T.step p ⟨t, .activity⟩ =
      ⟨some t, T.pending + (t.millis - a.millis) / 1000, T.written⟩ := by
  unfold step
  rw [hl]
  dsimp only
  rw [hb, if_neg Bool.false_ne_true]

/-- The tally of a list of events. -/
def SessionPolicy.tally (p : SessionPolicy) (es : List TimedEvent) : Tally :=
  es.foldl (Tally.step p) ⟨none, 0, []⟩

theorem SessionPolicy.tally_concat (p : SessionPolicy) (es : List TimedEvent) (e : TimedEvent) :
    p.tally (es ++ [e]) = (p.tally es).step p e := by
  unfold tally
  rw [List.foldl_append]
  rfl

/-! ## Sessions grow at their end -/

section Concat

variable {α : Type} {r : α → α → Bool} {l g : List α} {gs : List (List α)} {a b : α}

/-- An element that is related to the one before it belongs to the last part. -/
theorem splitBy_concat_of_rel (h : l.splitBy r = gs ++ [g ++ [a]]) (hr : r a b = true) :
    (l ++ [b]).splitBy r = gs ++ [(g ++ [a]) ++ [b]] := by
  -- a cut is known by its parts: they join to the list, none is empty, their elements are related
  -- one after the other, and two of them are not where they meet
  obtain ⟨hl, hn, hc, hc'⟩ := List.splitBy_eq_iff.1 h
  rw [List.splitBy_eq_iff]
  refine ⟨?_, ?_, ?_, ?_⟩
  · rw [hl]
    simp only [List.flatten_append, List.flatten_singleton, List.append_assoc]
  · simp only [List.mem_append, List.mem_singleton, not_or] at hn ⊢
    exact ⟨hn.1, by simp⟩
  · intro m hm
    rcases List.mem_append.1 hm with hm | hm
    · exact hc m (List.mem_append_left _ hm)
    · rw [List.mem_singleton.1 hm]
      refine (hc (g ++ [a]) (by simp)).append (.singleton b) fun x hx y hy => ?_
      rw [List.getLast?_concat, Option.mem_some] at hx
      rw [List.head?_cons, Option.mem_some] at hy
      rw [← hx, ← hy]
      exact hr
  · -- the last part begins as before, so the cut before it stays one
    rw [List.isChain_append] at hc' ⊢
    refine ⟨hc'.1, .singleton _, fun x hx y hy => ?_⟩
    obtain ⟨ha, hb, hf⟩ := hc'.2.2 x hx (g ++ [a]) rfl
    rw [List.head?_cons, Option.mem_some] at hy
    subst hy
    refine ⟨ha, by simp, ?_⟩
    rw [List.head_append_of_ne_nil hb]
    exact hf

/-- An element that is not related to the one before it begins a part. -/
theorem splitBy_concat_of_not_rel (h : l.getLast? = some a) (hr : r a b = false) :
    (l ++ [b]).splitBy r = l.splitBy r ++ [[b]] := by
  refine List.splitBy_append fun x hx y hy => ?_
  rw [h, Option.mem_some] at hx
  rw [List.head?_cons, Option.mem_some] at hy
  rw [← hx, ← hy]
  exact hr

end Concat

theorem onlineSeconds_concat (g : List Instant) (a b : Instant) :
    onlineSeconds ((g ++ [a]) ++ [b]) =
      onlineSeconds (g ++ [a]) + (b.millis - a.millis) / 1000 := by
  induction g with
  | nil => simp [onlineSeconds]
  | cons c g ih =>
      cases g with
      | nil =>
          simp only [List.cons_append, List.nil_append, onlineSeconds] at ih ⊢
          omega
      | cons d g =>
          simp only [List.cons_append, onlineSeconds] at ih ⊢
          rw [ih]
          omega

theorem activityTimes_concat (es : List TimedEvent) (t : Instant) :
    activityTimes (es ++ [⟨t, .activity⟩]) = activityTimes es ++ [t] := by
  simp [activityTimes]

theorem activityTimes_concat_heartbeat (es : List TimedEvent) (t : Instant) :
    activityTimes (es ++ [⟨t, .heartbeat⟩]) = activityTimes es := by
  simp [activityTimes]

namespace SessionPolicy

variable {p : SessionPolicy} {es : List TimedEvent} {gs : List (List Instant)} {g : List Instant}
variable {a t : Instant} {e : TimedEvent}

theorem endOf?_concat_of_isSome {s : List Instant} (h : (p.endOf? es s).isSome = true)
    (e : TimedEvent) : p.endOf? (es ++ [e]) s = p.endOf? es s := by
  unfold endOf? at h ⊢
  cases hs : s.getLast? with
  | none => rfl
  | some a =>
      rw [hs, Option.bind_some] at h
      rw [Option.bind_some, Option.bind_some, List.find?_append, Option.or_of_isSome h]

theorem endOf?_concat_of_isNone (h : p.endOf? es (g ++ [a]) = none) (e : TimedEvent) :
    p.endOf? (es ++ [e]) (g ++ [a]) = if p.isEnd a e then some e else none := by
  unfold endOf? at h ⊢
  rw [List.getLast?_concat, Option.bind_some] at h ⊢
  rw [List.find?_append, h, Option.none_or, List.find?_singleton]

/-- The sessions of a list of events, the last one apart: all sessions before it are over. -/
structure Divided (p : SessionPolicy) (es : List TimedEvent) (gs : List (List Instant))
    (g : List Instant) (a : Instant) : Prop where
  sessions : p.sessions (activityTimes es) = gs ++ [g ++ [a]]
  ended : ∀ s ∈ gs, (p.endOf? es s).isSome = true

namespace Divided

theorem lastSession (h : p.Divided es gs g a) : p.lastSession es = g ++ [a] := by
  unfold SessionPolicy.lastSession
  rw [h.sessions, List.getLastD_eq_getLast?, List.getLast?_concat, Option.getD_some]

theorem getLast? (h : p.Divided es gs g a) : (activityTimes es).getLast? = some a := by
  -- the sessions join to all times of activity
  have hf : activityTimes es = (p.sessions (activityTimes es)).flatten :=
    (List.flatten_splitBy _ _).symm
  rw [hf, h.sessions, List.flatten_append, List.flatten_singleton, ← List.append_assoc,
    List.getLast?_concat]

theorem filterMap_concat (h : p.Divided es gs g a) (e : TimedEvent) :
    gs.filterMap (p.closure? (es ++ [e])) = gs.filterMap (p.closure? es) := by
  refine List.filterMap_congr fun s hs => ?_
  unfold closure?
  rw [endOf?_concat_of_isSome (h.ended s hs)]

/-- While the last session goes on, the written sessions are those before it. -/
theorem of_open (h : p.Divided es gs g a) (hn : p.endOf? es (g ++ [a]) = none) :
    p.pending es = onlineSeconds (g ++ [a]) ∧
      p.written es = (gs.filterMap (p.closure? es)).filter fun w => 0 < w.2 := by
  constructor
  · unfold pending
    rw [h.lastSession, hn]
    rfl
  · unfold written
    rw [h.sessions, List.filterMap_append]
    simp only [List.filterMap_cons, closure?, hn, Option.map_none, List.filterMap_nil,
      List.append_nil]

/-- When the last session is over it is written like the ones before it. -/
theorem of_over (h : p.Divided es gs g a) (hs : p.endOf? es (g ++ [a]) = some e) :
    p.pending es = 0 ∧
      p.written es = ((gs.filterMap (p.closure? es)).filter fun w => 0 < w.2) ++
        positive e.time (onlineSeconds (g ++ [a])) := by
  constructor
  · unfold pending
    rw [h.lastSession, hs]
    rfl
  · unfold written
    rw [h.sessions, List.filterMap_append, List.filter_append]
    simp only [List.filterMap_cons, closure?, hs, Option.map_some, List.filterMap_nil]
    rfl

theorem heartbeat (h : p.Divided es gs g a) (t : Instant) :
    p.Divided (es ++ [⟨t, .heartbeat⟩]) gs g a := by
  refine ⟨?_, fun s hs => ?_⟩
  · rw [activityTimes_concat_heartbeat]
    exact h.sessions
  · rw [endOf?_concat_of_isSome (h.ended s hs)]
    exact h.ended s hs

theorem continues (h : p.Divided es gs g a) (hb : p.isBoundary a t = false) :
    p.Divided (es ++ [⟨t, .activity⟩]) gs (g ++ [a]) t := by
  refine ⟨?_, fun s hs => ?_⟩
  · rw [activityTimes_concat]
    exact splitBy_concat_of_rel h.sessions (by rw [hb]; rfl)
  · rw [endOf?_concat_of_isSome (h.ended s hs)]
    exact h.ended s hs

theorem restarts (h : p.Divided es gs g a) (hb : p.isBoundary a t = true)
    (ho : (p.endOf? (es ++ [⟨t, .activity⟩]) (g ++ [a])).isSome = true) :
    p.Divided (es ++ [⟨t, .activity⟩]) (gs ++ [g ++ [a]]) [] t := by
  refine ⟨?_, fun s hs => ?_⟩
  · have hc := splitBy_concat_of_not_rel (r := fun a b => !p.isBoundary a b) (b := t) h.getLast?
      (by rw [hb]; rfl)
    rw [activityTimes_concat]
    show List.splitBy _ _ = _
    rw [hc]
    exact congrArg (fun l => l ++ [[t]]) h.sessions
  · rcases List.mem_append.1 hs with hs | hs
    · rw [endOf?_concat_of_isSome (h.ended s hs)]
      exact h.ended s hs
    · rw [List.mem_singleton.1 hs]
      exact ho

/-- At a later activity the last session is over: it was so already, or this activity ends it. -/
theorem ends (h : p.Divided es gs g a) (hlt : a.millis < t.millis) :
    ∃ e, p.endOf? (es ++ [⟨t, .activity⟩]) (g ++ [a]) = some e ∧
      p.written es ++ positive t (p.pending es) =
        ((gs.filterMap (p.closure? es)).filter fun w => 0 < w.2) ++
          positive e.time (onlineSeconds (g ++ [a])) := by
  cases ho : p.endOf? es (g ++ [a]) with
  | some e =>
      obtain ⟨h1, h2⟩ := h.of_over ho
      refine ⟨e, by rw [endOf?_concat_of_isSome (by rw [ho]; rfl), ho], ?_⟩
      rw [h1, h2, show positive t 0 = [] from rfl, List.append_nil]
  | none =>
      obtain ⟨h1, h2⟩ := h.of_open ho
      refine ⟨⟨t, .activity⟩, ?_, by rw [h1, h2]⟩
      rw [endOf?_concat_of_isNone ho]
      exact if_pos (decide_eq_true hlt)

theorem starts (h : activityTimes es = []) (t : Instant) :
    p.Divided (es ++ [⟨t, .activity⟩]) [] [] t := by
  refine ⟨?_, fun s hs => by cases hs⟩
  rw [activityTimes_concat, h]
  rfl

end Divided

/-! ## The tally finds the sessions -/

theorem gap_pos_of_isBoundary (hg : 1 ≤ p.gapSeconds) (h : p.isBoundary a t = true) :
    a.millis < t.millis := by
  rcases p.isBoundary_iff.1 h with h | h
  · omega
  · omega

theorem millis_le_of_mem_concat (ht : ∀ e ∈ es, e.time.millis ≤ t.millis) {k : ActivityKind}
    (he : e ∈ es ++ [⟨t, k⟩]) : e.time.millis ≤ t.millis := by
  rcases List.mem_append.1 he with he | he
  · exact ht e he
  · rw [List.mem_singleton.1 he]

/-- An activity is no end of its own session. -/
theorem endOf?_eq_none (ht : ∀ e ∈ es, e.time.millis ≤ t.millis) (g : List Instant) :
    p.endOf? es (g ++ [t]) = none := by
  unfold endOf?
  rw [List.getLast?_concat, Option.bind_some]
  refine List.find?_eq_none.2 fun e he => ?_
  have := ht e he
  unfold isEnd
  cases e.kind with
  | activity => simp only [decide_eq_true_eq]; omega
  | heartbeat => simp only [decide_eq_true_eq]; omega

/-- A session that goes on with an activity was not over before it. -/
theorem endOf?_eq_none_of_not_isBoundary (hs : es.Pairwise fun d e => d.time.millis ≤ e.time.millis)
    (ht : ∀ e ∈ es, e.time.millis ≤ t.millis) (ha : (activityTimes es).getLast? = some a)
    (hb : p.isBoundary a t = false) : p.endOf? es (g ++ [a]) = none := by
  unfold endOf?
  rw [List.getLast?_concat, Option.bind_some]
  refine List.find?_eq_none.2 fun e he => ?_
  unfold isEnd
  cases hk : e.kind with
  | activity =>
      -- the last activity is the latest one
      have hm : e.time ∈ activityTimes es :=
        List.mem_map.2 ⟨e, List.mem_filter.2 ⟨he, by simp [hk]⟩, rfl⟩
      obtain ⟨l, hl⟩ := List.getLast?_eq_some_iff.1 ha
      have hp : (activityTimes es).Pairwise fun c d => c.millis ≤ d.millis :=
        (hs.filter _).map _ fun _ _ h => h
      rw [hl, List.pairwise_append] at hp
      rw [hl] at hm
      have hle : e.time.millis ≤ a.millis := by
        rcases List.mem_append.1 hm with hm | hm
        · exact hp.2.2 _ hm a List.mem_cons_self
        · exact Int.le_of_eq (congrArg _ (List.mem_singleton.1 hm))
      simp only [decide_eq_true_eq]
      omega
  | heartbeat =>
      have := ht e he
      intro hl
      have hlt := of_decide_eq_true hl
      rw [p.isBoundary_iff.2 (.inr (by omega))] at hb
      cases hb

/-- What the tally has found after some events, in terms of the sessions. -/
def Found (p : SessionPolicy) (es : List TimedEvent) : Prop :=
  (activityTimes es = [] ∧ p.tally es = ⟨none, 0, []⟩) ∨
    ∃ gs g a, p.Divided es gs g a ∧ p.tally es = ⟨some a, p.pending es, p.written es⟩

theorem found_heartbeat (h : p.Found es) (t : Instant) : p.Found (es ++ [⟨t, .heartbeat⟩]) := by
  unfold Found
  rw [tally_concat]
  rcases h with ⟨hn, hT⟩ | ⟨gs, g, a, hd, hT⟩
  · exact .inl ⟨by rw [activityTimes_concat_heartbeat, hn], by rw [hT]; rfl⟩
  · have hd' := hd.heartbeat t
    refine .inr ⟨gs, g, a, hd', ?_⟩
    rw [hT]
    cases ho : p.endOf? es (g ++ [a]) with
    | some e =>
        -- a session that is over already stays so, whatever the heartbeat finds
        have ho' : p.endOf? (es ++ [⟨t, .heartbeat⟩]) (g ++ [a]) = some e := by
          rw [endOf?_concat_of_isSome (by rw [ho]; rfl), ho]
        obtain ⟨h1, h2⟩ := hd.of_over ho
        obtain ⟨h1', h2'⟩ := hd'.of_over ho'
        rw [h1', h2', hd.filterMap_concat, ← h2, h1]
        unfold Tally.step
        dsimp only
        split
        · rw [show positive t 0 = [] from rfl, List.append_nil]
        · rfl
    | none =>
        -- the heartbeat ends the session if the marker has expired
        have ho' := endOf?_concat_of_isNone ho ⟨t, .heartbeat⟩
        obtain ⟨h1, h2⟩ := hd.of_open ho
        unfold Tally.step
        dsimp only
        by_cases hl : p.markerSeconds * 1000 < t.millis - a.millis
        · rw [if_pos (show p.isEnd a ⟨t, .heartbeat⟩ = true from decide_eq_true hl)] at ho'
          obtain ⟨h1', h2'⟩ := hd'.of_over ho'
          rw [if_pos hl, h1', h2', hd.filterMap_concat, ← h2, h1]
        · have hf : ¬ p.isEnd a ⟨t, .heartbeat⟩ = true := fun he => hl (of_decide_eq_true he)
          rw [if_neg hf] at ho'
          obtain ⟨h1', h2'⟩ := hd'.of_open ho'
          rw [if_neg hl, h1', h2', hd.filterMap_concat, ← h2, h1]

theorem found_activity (hg : 1 ≤ p.gapSeconds)
    (hs : es.Pairwise fun d e => d.time.millis ≤ e.time.millis)
    (ht : ∀ e ∈ es, e.time.millis ≤ t.millis) (h : p.Found es) :
    p.Found (es ++ [⟨t, .activity⟩]) := by
  have ht' : ∀ e ∈ es ++ [⟨t, .activity⟩], e.time.millis ≤ t.millis :=
    fun e he => millis_le_of_mem_concat ht he
  unfold Found
  rw [tally_concat]
  rcases h with ⟨hn, hT⟩ | ⟨gs, g, a, hd, hT⟩
  · -- the first activity starts the first session
    have hd' := Divided.starts (p := p) hn t
    obtain ⟨h1, h2⟩ := hd'.of_open (endOf?_eq_none ht' [])
    refine .inr ⟨[], [], t, hd', ?_⟩
    rw [hT, h1, h2]
    rfl
  · cases hb : p.isBoundary a t with
    | false =>
        -- the activity belongs to the last session, which was not over
        have hd' := hd.continues hb
        obtain ⟨h1', h2'⟩ := hd'.of_open (endOf?_eq_none ht' (g ++ [a]))
        obtain ⟨h1, h2⟩ := hd.of_open (endOf?_eq_none_of_not_isBoundary hs ht hd.getLast? hb)
        refine .inr ⟨gs, g ++ [a], t, hd', ?_⟩
        rw [hT, h1', h2', hd.filterMap_concat, ← h2, h1, onlineSeconds_concat]
        simp only [Tally.step, hb, Bool.false_eq_true, if_false]
    | true =>
        -- the activity starts a session, and the one before it is written
        obtain ⟨e, he, hw⟩ := hd.ends (gap_pos_of_isBoundary hg hb)
        have hd' := hd.restarts hb (by rw [he]; rfl)
        obtain ⟨h1', h2'⟩ := hd'.of_open (endOf?_eq_none ht' [])
        refine .inr ⟨_, _, t, hd', ?_⟩
        rw [hT, h1', h2', List.filterMap_append, List.filter_append, hd.filterMap_concat]
        simp only [Tally.step, hb, if_true, List.filterMap_cons, closure?, he, Option.map_some,
          List.filterMap_nil, hw]
        rfl

theorem found (hg : 1 ≤ p.gapSeconds)
    (hs : es.Pairwise fun d e => d.time.millis ≤ e.time.millis) : p.Found es := by
  induction es using List.reverseRecOn with
  | nil => exact .inl ⟨rfl, rfl⟩
  | append_singleton es e ih =>
      rw [List.pairwise_append] at hs
      have h := ih hs.1
      obtain ⟨t, k⟩ := e
      cases k with
      | heartbeat => exact found_heartbeat h t
      | activity =>
          exact found_activity hg hs.1 (fun e he => hs.2.2 e he _ List.mem_cons_self) h

/-- Going through the events once finds the last activity, the seconds of the session that goes on,
and what is to be written. -/
theorem tally_eq (hg : 1 ≤ p.gapSeconds)
    (hs : es.Pairwise fun d e => d.time.millis ≤ e.time.millis) :
    p.tally es = ⟨(activityTimes es).getLast?, p.pending es, p.written es⟩ := by
  rcases found hg hs with ⟨hn, hT⟩ | ⟨gs, g, a, hd, hT⟩
  · rw [hT]
    unfold pending written lastSession
    rw [hn]
    rfl
  · rw [hT, hd.getLast?]

/-- After an activity the session goes on. -/
theorem pending_concat_activity (hg : 1 ≤ p.gapSeconds)
    (hs : (es ++ [(⟨t, .activity⟩ : TimedEvent)]).Pairwise fun d e => d.time.millis ≤ e.time.millis) :
    p.pending (es ++ [⟨t, .activity⟩]) =
      onlineSeconds (p.lastSession (es ++ [⟨t, .activity⟩])) := by
  rcases found hg hs with ⟨hn, -⟩ | ⟨gs, g, a, hd, -⟩
  · rw [activityTimes_concat] at hn
    exact absurd hn (by simp)
  · have ha := hd.getLast?
    rw [activityTimes_concat, List.getLast?_concat, Option.some.injEq] at ha
    subst ha
    rw [List.pairwise_append] at hs
    have ht : ∀ e ∈ es, e.time.millis ≤ t.millis :=
      fun e he => hs.2.2 e he _ List.mem_cons_self
    have ho : p.endOf? (es ++ [⟨t, .activity⟩]) (g ++ [t]) = none :=
      endOf?_eq_none (fun e he => millis_le_of_mem_concat ht he) g
    rw [hd.lastSession]
    exact (hd.of_open ho).1

end SessionPolicy

/-! ## Bounds of the tally -/

theorem sum_positive {n : Int} (h : 0 ≤ n) (t : Instant) :
    ((positive t n).map (·.2)).sum = n := by
  unfold positive
  by_cases h0 : 0 < n
  · simp [h0]
  · simp [h0]
    omega

/-- The seconds of a tally are not negative, and no more than have gone by up to the last
activity. -/
structure Tally.Bounded (T : Tally) : Prop where
  pending_nonneg : 0 ≤ T.pending
  written_pos : ∀ w ∈ T.written, 0 < w.2
  le_last : ∀ a, T.last = some a →
    1000 * (T.pending + (T.written.map (·.2)).sum) ≤ a.millis + 8334601228800000
  of_none : T.last = none → T.pending = 0 ∧ T.written = []

namespace Tally.Bounded

variable {p : SessionPolicy} {T : Tally} {a t : Instant}

/-- Writing the pending seconds neither gains nor loses any. -/
theorem closed (h : T.Bounded) (ha : T.last = some a) (t : Instant) {b : Instant}
    (hb : a.millis ≤ b.millis) :
    Tally.Bounded ⟨some b, 0, T.written ++ positive t T.pending⟩ := by
  refine ⟨Int.le_refl 0, fun w hw => ?_, ?_, ?_⟩
  · rcases List.mem_append.1 hw with hw | hw
    · exact h.written_pos w hw
    · exact of_decide_eq_true (List.mem_filter.1 hw).2
  · rintro c ⟨⟩
    have hl := h.le_last a ha
    dsimp only
    rw [List.map_append, List.sum_append, sum_positive h.pending_nonneg]
    omega
  · rintro ⟨⟩

/-- A later last activity leaves even more time. -/
theorem marked (h : T.Bounded) (ht : ∀ a, T.last = some a → a.millis ≤ t.millis) :
    Tally.Bounded ⟨some t, T.pending, T.written⟩ := by
  refine ⟨h.pending_nonneg, h.written_pos, ?_, fun hn => by cases hn⟩
  rintro b ⟨⟩
  dsimp only
  cases hl : T.last with
  | none =>
      -- nothing is pending, and no instant is before the calendar
      obtain ⟨h1, h2⟩ := h.of_none hl
      have := t.inRange
      rw [h1, h2, List.map_nil, List.sum_nil]
      omega
  | some a =>
      have h1 := h.le_last a hl
      have h2 := ht a hl
      omega

/-- All seconds together fit in a signed word, as the whole calendar does. -/
theorem sum_le_greatest (h : T.Bounded) (ha : T.last = some a) :
    T.pending + (T.written.map (·.2)).sum ≤ Signed64.greatest := by
  have hl := h.le_last a ha
  have hr := a.inRange
  unfold Signed64.greatest
  omega

theorem fits_pending (h : T.Bounded) (ha : T.last = some a) : Signed64.Fits T.pending := by
  have h0 := h.pending_nonneg
  have hle := h.sum_le_greatest ha
  have hw : 0 ≤ (T.written.map (·.2)).sum := by
    apply List.sum_nonneg
    intro n hn
    obtain ⟨w, hw, rfl⟩ := List.mem_map.1 hn
    exact Int.le_of_lt (h.written_pos w hw)
  refine ⟨?_, by omega⟩
  unfold Signed64.least
  omega

theorem step (h : T.Bounded) {e : TimedEvent}
    (ht : ∀ a, T.last = some a → a.millis ≤ e.time.millis) : (T.step p e).Bounded := by
  unfold Tally.step
  cases hl : T.last with
  | none =>
      cases e.kind with
      | heartbeat => exact h
      | activity =>
          have hm := h.marked ht
          rw [(h.of_none hl).1] at hm
          exact hm
  | some a =>
      have ha := ht a hl
      cases e.kind with
      | heartbeat =>
          dsimp only
          split
          · -- the marker stays as it is
            exact h.closed hl e.time (Int.le_refl _)
          · exact h
      | activity =>
          dsimp only
          split
          · exact h.closed hl e.time ha
          · have h0 := h.pending_nonneg
            refine ⟨?_, h.written_pos, ?_, ?_⟩
            · dsimp only
              omega
            · rintro b ⟨⟩
              have hl := h.le_last a hl
              dsimp only
              omega
            · rintro ⟨⟩

end Tally.Bounded

theorem SessionPolicy.last_tally_concat (p : SessionPolicy) (es : List TimedEvent)
    (e : TimedEvent) : (p.tally (es ++ [e])).last = some e.time ∨
      (p.tally (es ++ [e])).last = (p.tally es).last := by
  rw [tally_concat]
  unfold Tally.step
  cases hl : (p.tally es).last with
  | none =>
      cases e.kind with
      | heartbeat => exact .inr hl
      | activity => exact .inl rfl
  | some a =>
      cases e.kind with
      | heartbeat =>
          dsimp only
          split
          · exact .inr rfl
          · exact .inr hl
      | activity =>
          dsimp only
          split <;> exact .inl rfl

theorem SessionPolicy.mem_of_last_tally (p : SessionPolicy) {es : List TimedEvent} {a : Instant}
    (h : (p.tally es).last = some a) : ∃ e ∈ es, e.time = a := by
  induction es using List.reverseRecOn with
  | nil => cases h
  | append_singleton es e ih =>
      rcases p.last_tally_concat es e with hl | hl
      · rw [hl, Option.some.injEq] at h
        exact ⟨e, List.mem_append_right _ List.mem_cons_self, h⟩
      · rw [hl] at h
        obtain ⟨d, hd, ht⟩ := ih h
        exact ⟨d, List.mem_append_left _ hd, ht⟩

theorem SessionPolicy.tally_bounded (p : SessionPolicy) {es : List TimedEvent}
    (hs : es.Pairwise fun d e => d.time.millis ≤ e.time.millis) : (p.tally es).Bounded := by
  induction es using List.reverseRecOn with
  | nil =>
      refine ⟨Int.le_refl 0, fun w hw => (by cases hw), ?_, fun _ => ⟨rfl, rfl⟩⟩
      rintro a ⟨⟩
  | append_singleton es e ih =>
      rw [List.pairwise_append] at hs
      rw [tally_concat]
      refine (ih hs.1).step fun a ha => ?_
      obtain ⟨d, hd, rfl⟩ := p.mem_of_last_tally ha
      exact hs.2.2 d hd e List.mem_cons_self

end Presence
