import Presence.Proofs.ConcurrentClosing
import Presence.Proofs.KnownRange
import Presence.Proofs.Refusals
import Presence.Proofs.Sparing

/-!
# Events that fail

An event makes up to eight calls on three backends, and the first that fails ends it. Up to the
end of a session none of them changes the seconds of the user, so that an event that fails there
has lost nothing. The end of a session takes two calls: the accrued time is set to zero first, and
then it is written to the daily statistics. Between the two the seconds stand nowhere: a session is
rather lost than counted twice. Main statement: `Service.failed_event_credit_iff`, an event that
fails, whatever calls were refused, leaves accrued and spent seconds together as they were unless
the write to the statistics failed, and then exactly the seconds of the session are lost.
-/

set_option autoImplicit false

namespace Presence

open Operation Program

/-- The call writes seconds of a user to the daily statistics. -/
def Call.isFlush (user : String) : Call → Bool
  | .ledger (.add u _ _) => u = user
  | _ => false

/-- A write of seconds of a user to the daily statistics has failed. -/
def Trail.hasLostFlush (user : String) (T : Trail) : Bool :=
  T.calls.any fun x => x.call.isFlush user && !x.reply.isOk

theorem Trail.hasLostFlush_extend (user : String) (T : Trail) (x : Exchange) :
    (T.extend x).hasLostFlush user =
      (x.call.isFlush user && !x.reply.isOk || T.hasLostFlush user) := rfl

namespace Memory

/-- Two surroundings with the same seconds of a user. -/
structure SameSeconds (k : Keys) (user : String) (m m' : Memory) : Prop where
  score : ∀ b, m'.store.getScore (k.accrualSet b) user = m.store.getScore (k.accrualSet b) user
  credit : m'.credit k user = m.credit k user

variable {k : Keys} {user : String}

theorem SameSeconds.refl (m : Memory) : SameSeconds k user m m := ⟨fun _ => rfl, rfl⟩

theorem SameSeconds.trans {m m' m'' : Memory} (h : SameSeconds k user m m')
    (h' : SameSeconds k user m' m'') : SameSeconds k user m m'' :=
  ⟨fun b => (h'.score b).trans (h.score b), h'.credit.trans h.credit⟩

theorem Alike.sameSeconds {m m' : Memory} (h : Alike k user m m') : SameSeconds k user m m' := by
  refine ⟨h.score, ?_⟩
  unfold credit
  rw [h.accrued, h.spent]

/-- Whatever text is written, seconds are not kept as texts. -/
theorem sameSeconds_setString (key value : String) (ttl : Option Nat) (m : Memory) :
    SameSeconds k user m (serve (.store (.setString key value ttl)) m).2 := by
  cases ttl with
  | none => exact ⟨fun _ => rfl, rfl⟩
  | some n =>
      rcases m.serve_setString key value n with ⟨x, hs⟩ | ⟨e, hs⟩
      · rw [hs]
        exact ⟨fun _ => rfl, rfl⟩
      · rw [hs]
        exact .refl m

end Memory

namespace Service

variable {s : Service} {user : String}

/-- A call that changes no seconds of a user: it leaves the user alone, or it is the one that
renews the marker. -/
def Idles (s : Service) (user : String) (c : Call) : Prop :=
  c.Spares s.keys user ∨ s.MarkCall user c

theorem Idles.isFlush {c : Call} (h : s.Idles user c) : c.isFlush user = false := by
  rcases h with h | ⟨text, ttl⟩
  · cases c with
    | ledger c =>
        cases c with
        | add u day n => exact decide_eq_false (Ne.symm h)
        | _ => rfl
    | _ => rfl
  · rfl

theorem Idles.serve {c : Call} (h : s.Idles user c) (m : Memory) :
    m.SameSeconds s.keys user (Memory.serve c m).2 := by
  rcases h with h | ⟨text, ttl⟩
  · exact (Memory.alike_serve h m).sameSeconds
  · exact Memory.sameSeconds_setString _ _ _ m

/-! ## Up to the end of a session -/

/-- After these calls the user has the seconds of the surroundings at the beginning. -/
structure Unharmed (s : Service) (user : String) (m : Memory) (T : Trail) : Prop where
  seconds : m.SameSeconds s.keys user T.memory
  flushes : T.hasLostFlush user = false

/-- After these calls the accrued seconds of a bucket are neither there nor in the statistics. -/
structure Bereft (s : Service) (user : String) (m : Memory) (T : Trail) : Prop where
  flushes : T.hasLostFlush user = true
  lost : ∃ b, 0 < m.store.getScore (s.keys.accrualSet b) user ∧
    T.memory.store.getScore (s.keys.accrualSet b) user = 0 ∧
    T.memory.credit s.keys user =
      m.credit s.keys user - m.store.getScore (s.keys.accrualSet b) user

/-- What a failure leaves of the seconds of a user. -/
def FailsFair {α : Type} (s : Service) (user : String) (m : Memory) (o : Outcome α) (T : Trail) :
    Prop :=
  ∀ e, o = .failed e → s.Unharmed user m T ∨ s.Bereft user m T

variable {m : Memory} {T : Trail} {α β : Type} {P : Call → Prop}

theorem failsFair_ok (a : α) : s.FailsFair user m (.ok a) T := fun _ h => nomatch h

theorem failsFair_crashed (c : Crash) : s.FailsFair user m (.crashed c : Outcome α) T :=
  fun _ h => nomatch h

theorem FailsFair.map {o : Outcome α} (h : s.FailsFair user m o T) (f : α → β) :
    s.FailsFair user m (o.map f) T := by
  cases o with
  | ok a => exact failsFair_ok (f a)
  | failed e => exact fun _ _ => h e rfl
  | crashed c => exact failsFair_crashed c

/-- A call that changes no seconds, and is not the write of them, harms nobody. -/
theorem Unharmed.concat (h : s.Unharmed user m T) {x : Exchange}
    (hx : T.memory.SameSeconds s.keys user x.after) (hc : x.call.isFlush user = false) :
    s.Unharmed user m (T.extend x) := by
  refine ⟨h.seconds.trans hx, ?_⟩
  rw [Trail.hasLostFlush_extend, h.flushes, hc]
  rfl

/-- Nor does one that has no effect. -/
theorem Unharmed.unserved (h : s.Unharmed user m T) {x : Exchange} (ha : x.after = T.memory)
    (hc : x.call.isFlush user = false) : s.Unharmed user m (T.extend x) :=
  h.concat (ha ▸ .refl _) hc

theorem Unharmed.extend (h : s.Unharmed user m T) {c : Call} (hc : s.Idles user c)
    (refused : Option Failure) : s.Unharmed user m (T.extend ⟨c, T.memory, refused⟩) := by
  rcases Exchange.cases_refusal c T.memory refused with ⟨e, -, ha⟩ | ⟨-, ha⟩
  · exact h.unserved ha hc.isFlush
  · exact h.concat (ha ▸ hc.serve T.memory) hc.isFlush

/-- A program of calls that change no seconds leaves the user unharmed, wherever it stops. -/
theorem Unharmed.keeps (h : s.Unharmed user m T) {p : Operation α} (hp : p.Only (s.Idles user)) :
    p.Keeps (Trail.refusing P) (fun _ T' => s.Unharmed user m T') T := by
  refine Only.keeps (fun c T' hc hT => ⟨True.intro, ?_⟩) hp h
  rintro r T'' ⟨refused, -, rfl, rfl⟩
  exact hT.extend hc refused

/-- Before the end of a session an event can stop anywhere. -/
theorem Unharmed.bind (h : s.Unharmed user m T) {p : Operation α} {f : α → Operation β}
    (hp : p.Only (s.Idles user))
    (hf : ∀ a T', s.Unharmed user m T' →
      (f a).Keeps (Trail.refusing P) (s.FailsFair user m) T') :
    (p >>= f).Keeps (Trail.refusing P) (s.FailsFair user m) T := by
  refine keeps_bind.2 ((h.keeps hp).mono fun o T' hT => ?_)
  cases o with
  | ok a => exact hf a T' hT
  | failed e => exact fun _ _ => .inl hT
  | crashed c => exact failsFair_crashed c

/-- A score that is read is the one at the beginning. -/
theorem Unharmed.bind_getScore (h : s.Unharmed user m T) {b : Int} {f : Int → Operation β}
    (hf : ∀ T', s.Unharmed user m T' →
      (f (m.store.getScore (s.keys.accrualSet b) user)).Keeps (Trail.refusing P)
        (s.FailsFair user m) T') :
    (getScore (s.keys.accrualSet b) user >>= f).Keeps (Trail.refusing P) (s.FailsFair user m)
      T := by
  have hidle : s.Idles user (.store (.getScore (s.keys.accrualSet b) user)) := .inl True.intro
  refine Trail.keeps_bind_of_cases (fun refused o _ _ _ => ?_) fun refused a ha _ => ?_
  · exact fun _ _ => .inl (h.extend hidle refused)
  · have hread : T.memory.store.getScore (s.keys.accrualSet b) user = a := Outcome.ok.inj ha
    rw [← hread, h.seconds.score b]
    exact hf _ (h.extend hidle refused)

/-! ## The end of a session -/

/-- Counting does not fail. -/
theorem keeps_count (c : Counter) (n : Nat) {Q : Outcome Unit → Trail → Prop}
    (h : ∀ T', Q (.ok ()) T') : (count c n).Keeps (Trail.refusing P) Q T := by
  refine ⟨True.intro, ?_⟩
  rintro r T' ⟨refused, -, rfl, rfl⟩
  exact h _

/-- After the reset a failed write leaves the user without the seconds of the session. -/
theorem Unharmed.bereft (h : s.Unharmed user m T) {b : Int} {day : String}
    (hpos : 0 < m.store.getScore (s.keys.accrualSet b) user) {x y : Exchange}
    (hreset : x.after = T.memory.putScore (s.keys.accrualSet b) user 0)
    (hy : y.call = .ledger (.add user day (m.store.getScore (s.keys.accrualSet b) user)))
    (hr : y.reply.isOk = false) (ha : y.after = x.after) :
    s.Bereft user m ((T.extend x).extend y) := by
  refine ⟨?_, b, hpos, ?_, ?_⟩
  · have hflush : y.call.isFlush user = true := by
      rw [hy]
      exact decide_eq_true rfl
    rw [Trail.hasLostFlush_extend, hflush, hr]
    rfl
  · show y.after.store.getScore _ _ = 0
    rw [ha, hreset]
    show (T.memory.store.setScore _ _ 0).getScore _ _ = 0
    rw [Store.getScore_setScore, if_pos ⟨rfl, rfl⟩]
  · -- the reset books the difference, and nothing books it back
    have hbook := (Booked.putScore s.keys user T.memory b 0).credit user
    rw [if_pos rfl, h.seconds.score b, h.seconds.credit] at hbook
    show y.after.credit s.keys user = _
    rw [ha, hreset, hbook]
    omega

theorem Unharmed.closeSession (h : s.Unharmed user m T) (b : Int) (t : Instant) :
    (s.closeSession user (s.keys.accrualSet b) (m.store.getScore (s.keys.accrualSet b) user)
      t).Keeps (Trail.refusing P) (s.FailsFair user m) T := by
  refine Trail.keeps_bind_of_cases (fun refused o _ _ ha => ?_) fun refused _ _ ha => ?_
  · -- a session that could not be reset is still there
    exact fun _ _ => .inl (h.unserved ha rfl)
  · split
    · exact failsFair_ok 0
    · rename_i hpos
      refine keeps_bind.2 (Trail.keeps_bind_of_cases (fun refused' o ho hr ha' => ?_)
        fun refused' _ _ _ => ?_)
      · have hlost := h.bereft (Int.not_le.1 hpos) (x := ⟨_, T.memory, refused⟩)
          (y := ⟨_, _, refused'⟩) ha rfl hr ha'
        cases o with
        | ok a => cases ho
        | failed e => exact fun _ _ => .inr hlost
        | crashed c => exact failsFair_crashed c
      · -- once the seconds are written, only counters follow
        exact keeps_bind.2 (keeps_count _ _ fun _ => keeps_count _ _ fun _ => failsFair_ok _)

theorem Unharmed.judge (h : s.Unharmed user m T) (b : Int) (t : Instant)
    (lastSeen : Option Instant) :
    (s.judge user (s.keys.accrualSet b) (m.store.getScore (s.keys.accrualSet b) user) t
      lastSeen).Keeps (Trail.refusing P) (s.FailsFair user m) T := by
  have hclose (f : Int → Accrual) :
      (s.closeSession user (s.keys.accrualSet b) (m.store.getScore (s.keys.accrualSet b) user)
        t >>= fun n => (pure (f n) : Operation Accrual)).Keeps (Trail.refusing P)
          (s.FailsFair user m) T :=
    ((h.closeSession b t).mono fun _ _ ho => ho.map f).map f
  cases lastSeen with
  | none => exact hclose .started
  | some last =>
      unfold Service.judge
      dsimp only
      split
      · exact hclose (.restarted _)
      · split
        · -- the gap is added in one call, which changes nothing if it fails
          refine Trail.keeps_bind_of_cases (fun refused o _ _ ha => ?_) fun _ _ _ _ => ?_
          · exact fun _ _ => .inl (h.unserved ha rfl)
          · exact failsFair_ok _
        · exact failsFair_ok _

/-! ## Events -/

theorem idles_of {c : Call} (h : c.Spares s.keys user) : (of c).Only (s.Idles user) :=
  only_ask (.inl h)

theorem idles_resolve (user : String) : (s.resolve user).Only (s.Idles user) :=
  (spares_resolve user).mono fun _ => .inl

theorem Unharmed.onActivity (h : s.Unharmed user m T) :
    (s.onActivity user).Keeps (Trail.refusing P) (s.FailsFair user m) T := by
  rw [onActivity_eq]
  refine h.bind (idles_of True.intro) fun time T₁ h₁ => ?_
  refine h₁.bind (idles_resolve user) fun b T₂ h₂ => ?_
  refine h₂.bind_getScore fun T₃ h₃ => ?_
  refine h₃.bind (idles_of True.intro) fun marker T₄ h₄ => ?_
  exact h₄.bind (only_ask (.inr (.mark _ _))) fun _ T₅ h₅ => h₅.judge b time _

theorem Unharmed.onHeartbeat (h : s.Unharmed user m T) :
    (s.onHeartbeat user).Keeps (Trail.refusing P) (s.FailsFair user m) T := by
  rw [onHeartbeat_eq]
  refine h.bind (idles_resolve user) fun b T₁ h₁ => ?_
  refine h₁.bind (idles_of True.intro) fun marker T₂ h₂ => ?_
  cases marker with
  | some text => exact failsFair_ok _
  | none =>
      refine h₂.bind_getScore fun T₃ h₃ => ?_
      split
      · exact failsFair_ok _
      · refine h₃.bind (idles_of True.intro) fun time T₄ h₄ => ?_
        exact ((h₄.closeSession b time).mono fun _ _ ho => ho.map _).map _

/-- An event that fails, in any surroundings and whatever calls of it were refused: accrued and
spent seconds of the user together are what they were exactly if no write of seconds to the daily
statistics has failed; if one has, then the accrued seconds of one bucket were set to zero and are
lost, and nothing else. -/
theorem failed_event_credit_iff (s : Service) (m : Memory) (user : String) {r : Request}
    (hr : r = .activity user ∨ r = .heartbeat user) (f : Refusals) {e : Failure}
    (he : ((⟨m, []⟩ : Trail).run f (s.perform r)).1 = .failed e) :
    let T := ((⟨m, []⟩ : Trail).run f (s.perform r)).2
    (T.memory.credit s.keys user = m.credit s.keys user ↔ T.hasLostFlush user = false) ∧
      (T.hasLostFlush user = true →
        ∃ b, 0 < m.store.getScore (s.keys.accrualSet b) user ∧
          T.memory.store.getScore (s.keys.accrualSet b) user = 0 ∧
          T.memory.credit s.keys user =
            m.credit s.keys user - m.store.getScore (s.keys.accrualSet b) user) := by
  intro T
  have hstart : s.Unharmed user m ⟨m, []⟩ := ⟨.refl m, rfl⟩
  have hfair : (s.perform r).Keeps (Trail.refusing fun _ => True) (s.FailsFair user m) ⟨m, []⟩ := by
    rcases hr with rfl | rfl
    · exact (hstart.onActivity.mono fun _ _ ho => ho.map Report.accrual).map Report.accrual
    · exact (hstart.onHeartbeat.mono fun _ _ ho => ho.map Report.accrual).map Report.accrual
  rcases Trail.run_of_keeps (f := f) (fun _ _ _ => True.intro) hfair e he with h | h
  · refine ⟨iff_of_true h.seconds.credit h.flushes, fun hl => ?_⟩
    exact absurd (hl.symm.trans h.flushes) Bool.noConfusion
  · obtain ⟨b, hpos, hzero, hlost⟩ := h.lost
    refine ⟨iff_of_false (fun hsame => ?_) ?_, fun _ => ⟨b, hpos, hzero, hlost⟩⟩
    · -- what is lost is a positive number of seconds
      have hcredit : T.memory.credit s.keys user = _ := hlost
      omega
    · rw [h.flushes]
      exact Bool.noConfusion

/-- Refuses one call: the one with a number. -/
def onlyCall (n : Nat) : Refusals := fun k _ =>
  if k = n then some (.reported "store down") else none

/-- A session that cannot be reset is not lost. -/
theorem failed_event_credit_resetRefused :
    let x := (⟨thirtyLeft, []⟩ : Trail).run (onlyCall 5) (standard.perform (.activity "ada"))
    x.1 = .failed (.reported "store down") ∧
      x.2.memory.credit standard.keys "ada" = thirtyLeft.credit standard.keys "ada" := by
  intro x
  have he : x.1 = .failed (.reported "store down") := by decide +kernel
  have h := failed_event_credit_iff standard thirtyLeft "ada" (.inl rfl) (onlyCall 5) he
  exact ⟨he, h.1.2 (by decide +kernel)⟩

/-- One refused call can cost the seconds of a session: the write to the daily statistics, after the
reset. -/
theorem credit_lost_flushRefused :
    ¬ ∀ (s : Service) (m : Memory) (user : String) (r : Request),
      r = .activity user ∨ r = .heartbeat user → ∀ (n : Nat) (e : Failure),
        let x := (⟨m, []⟩ : Trail).run (onlyCall n) (s.perform r)
        x.1 = .failed e → x.2.memory.credit s.keys user = m.credit s.keys user := by
  intro h
  have hsame := h standard thirtyLeft "ada" (.activity "ada") (.inl rfl) 6 (.reported "store down")
    (by decide +kernel)
  exact absurd hsame (by decide +kernel)

end Service

end Presence
