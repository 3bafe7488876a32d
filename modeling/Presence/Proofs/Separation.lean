import Presence.JobSwitch
import Presence.Proofs.Interleaving
import Presence.Proofs.Placement
import Presence.Proofs.UserCalls

/-!
# Users do not interfere

What is kept of a user is a view of the surroundings. A call of another user, a call that only reads
and the switch of a job leave the view alone; a call of the user is answered by the view, and
changes it in a way that depends on nothing else. So a run of any requests side by side shows each
user what the user would see without the others. Main statement:
`Scene.view_running_play_filter`, by induction over the turns of the run with the relation
`Scene.Twin`.
-/

set_option autoImplicit false

namespace Presence

/-- What is kept of a user, and the time. -/
structure View where
  marker : Option StoredText
  range : Option StoredText
  /-- The entries in the accrual sets, bucket by bucket. -/
  scores : Int → Option Int
  /-- The daily statistics, day by day. -/
  days : String → Option DailyStatistic
  profile : Option Int
  clock : Clock

namespace View

/-- Replaces the entry in the accrual set of a bucket. -/
def withScore (v : View) (bucket : Int) (score : Option Int) : View :=
  { v with scores := fun b => if b = bucket then score else v.scores b }

/-- Replaces the statistics of a day. -/
def withDay (v : View) (day : String) (r : DailyStatistic) : View :=
  { v with days := fun d => if d = day then some r else v.days d }

/-- The seconds of a day. -/
def spentOn (v : View) (day : String) : Int := (v.days day).elim 0 (·.spentSeconds)

end View

namespace Memory

/-- What the surroundings keep of a user. -/
def view (k : Keys) (user : String) (m : Memory) : View where
  marker := m.store.strings.get? (k.sessionMarker user)
  range := m.store.strings.get? (k.alertRange user)
  scores b := (m.store.members (k.accrualSet b)).get? user
  days day := m.ledger.find user day
  profile := m.profiles.get? user
  clock := m.clock

variable {k : Keys} {user : String} {m m' : Memory}

theorem getScore_of_view (b : Int) (m : Memory) :
    m.store.getScore (k.accrualSet b) user = ((m.view k user).scores b).getD 0 := rfl

theorem spentOn_of_view (k : Keys) (day : String) (m : Memory) :
    m.ledger.spentOn user day = (m.view k user).spentOn day := rfl

/-! ## Calls of others -/

theorem view_putScore_other {set member : String} (h : k.bucket? set = none ∨ user ≠ member)
    (value : Int) (m : Memory) : (m.putScore set member value).view k user = m.view k user := by
  have hs : (fun b => ((m.store.setScore set member value).members (k.accrualSet b)).get? user) =
      fun b => (m.store.members (k.accrualSet b)).get? user := by
    funext b
    rw [Store.members_setScore_get?, if_neg]
    rintro ⟨rfl, hu⟩
    rcases h with h | h
    · rw [Keys.bucket?_accrualSet] at h
      cases h
    · exact h hu
  exact congrArg (fun scores => { m.view k user with scores := scores }) hs

theorem view_dropMember_other {member : String} (h : user ≠ member) (set : String) (m : Memory) :
    (m.dropMember set member).view k user = m.view k user := by
  have hs : (fun b => ((m.store.removeMember set member).members (k.accrualSet b)).get? user) =
      fun b => (m.store.members (k.accrualSet b)).get? user := by
    funext b
    rw [Store.members_removeMember_get?, if_neg fun e => h e.2]
  have ht : (m.store.removeMember set member).strings = m.store.strings := by
    unfold Store.removeMember
    cases m.store.sets.get? set <;> rfl
  unfold view dropMember
  dsimp only
  rw [hs, ht]

theorem view_setString_other {key : String} (hm : key ≠ k.sessionMarker user)
    (hr : key ≠ k.alertRange user) (value : String) (ttl : Option Nat) (m : Memory) :
    (serve (.store (.setString key value ttl)) m).2.view k user = m.view k user := by
  have h1 := m.store.setString_facts m.clock.now key value ttl hm.symm
  have h2 := m.store.setString_facts m.clock.now key value ttl hr.symm
  show ({ m with store := (m.store.setString m.clock.now key value ttl).2 } : Memory).view k user =
    _
  unfold view Store.members
  dsimp only
  rw [h1.1, h1.2, h2.2]

theorem view_addSpent_other {v : String} (h : user ≠ v) (day : String) (n : Int) (m : Memory) :
    ({ m with ledger := (m.ledger.add v day n).2 } : Memory).view k user = m.view k user := by
  have hd : (fun d => (m.ledger.add v day n).2.find user d) = fun d => m.ledger.find user d := by
    funext d
    by_cases hf : Signed64.Fits (m.ledger.spentOn v day + n)
    · rw [Ledger.find_add hf, if_neg fun e => h e.1]
    · rw [Ledger.add_of_not_fits _ _ _ _ hf]
  exact congrArg (fun days => { m.view k user with days := days }) hd

/-- Surroundings with the same sessions, statistics, profiles and time keep the same of a user. -/
theorem Agree.view_eq (h : m.Agree m') : m'.view k user = m.view k user := by
  unfold view
  rw [h.store, h.ledger, h.profiles, h.clock]

end Memory

namespace Service

variable {s : Service} {user : String}

open Memory

/-- A call of another user leaves what is kept of a user alone. -/
theorem OwnCall.view_eq {v : String} {c : Call} (h : s.OwnCall v c) (hne : user ≠ v) (m : Memory) :
    (serve c m).2.view s.keys user = m.view s.keys user := by
  have hr : s.keys.alertRange v ≠ s.keys.alertRange user :=
    fun e => hne (Keys.alertRange_inj.1 e).symm
  have hm : s.keys.sessionMarker v ≠ s.keys.sessionMarker user :=
    fun e => hne (Keys.sessionMarker_inj.1 e).symm
  have hadd (b x : Int) : (serve (.store (.incrScore (s.keys.accrualSet b) v x)) m).2.view
      s.keys user = m.view s.keys user := by
    rcases m.serve_incrScore (s.keys.accrualSet b) v x with hs | hs
    · rw [hs]
      exact view_putScore_other (.inr hne) _ m
    · rw [hs]
  cases h with
  | any h =>
      cases h with
      | setRange range =>
          exact view_setString_other (Keys.sessionMarker_ne_alertRange user v).symm hr _ _ m
      | list bucket => exact view_putScore_other (.inl Keys.bucket?_bucketIndex) bucket m
      | reset b => exact view_putScore_other (.inr hne) 0 m
      | gain b h => exact hadd b _
      | spend day h => exact view_addSpent_other hne day _ m
      | now => rfl
      | count c n => rfl
      | profile => rfl
      | getMarker => rfl
      | getRange => rfl
      | getScore b => rfl
  | mark h =>
      obtain ⟨text, ttl⟩ := h
      exact view_setString_other hm (Keys.sessionMarker_ne_alertRange v user) text ttl m
  | move h =>
      cases h with
      | lift b => exact view_dropMember_other hne _ m
      | drop b x => exact hadd b x

end Service

/-! ## Calls of the user -/

namespace Memory

variable {k : Keys} {user : String} {m m' : Memory}

theorem view_putScore (b value : Int) (m : Memory) :
    (m.putScore (k.accrualSet b) user value).view k user =
      (m.view k user).withScore b (some value) := by
  have hs : (fun b' => ((m.store.setScore (k.accrualSet b) user value).members
      (k.accrualSet b')).get? user) = ((m.view k user).withScore b (some value)).scores := by
    funext b'
    rw [Store.members_setScore_get?]
    simp only [Keys.accrualSet_inj, and_true]
    rfl
  exact congrArg (fun scores => { m.view k user with scores := scores }) hs

theorem view_dropMember (b : Int) (m : Memory) :
    (m.dropMember (k.accrualSet b) user).view k user = (m.view k user).withScore b none := by
  have hs : (fun b' => ((m.store.removeMember (k.accrualSet b) user).members
      (k.accrualSet b')).get? user) = ((m.view k user).withScore b none).scores := by
    funext b'
    rw [Store.members_removeMember_get?]
    simp only [Keys.accrualSet_inj, and_true]
    rfl
  have ht : (m.store.removeMember (k.accrualSet b) user).strings = m.store.strings := by
    unfold Store.removeMember
    cases m.store.sets.get? (k.accrualSet b) <;> rfl
  unfold view dropMember
  dsimp only
  rw [hs, ht]
  rfl

theorem view_putRange (value : String) (expires : Option Instant) (m : Memory) :
    (m.putString (k.alertRange user) value expires).view k user =
      { m.view k user with range := some ⟨value, expires⟩ } := by
  unfold view putString
  dsimp only
  rw [Table.get?_set_self, Table.get?_set_of_ne _ _ (Keys.sessionMarker_ne_alertRange user user)]
  rfl

theorem view_putMarker (value : String) (expires : Option Instant) (m : Memory) :
    (m.putString (k.sessionMarker user) value expires).view k user =
      { m.view k user with marker := some ⟨value, expires⟩ } := by
  unfold view putString
  dsimp only
  rw [Table.get?_set_self,
    Table.get?_set_of_ne _ _ (Keys.sessionMarker_ne_alertRange user user).symm]
  rfl

theorem view_addSpent {day : String} {n : Int}
    (h : Signed64.Fits (m.ledger.spentOn user day + n)) :
    ({ m with ledger := (m.ledger.add user day n).2 } : Memory).view k user =
      (m.view k user).withDay day { ((m.view k user).days day).getD ⟨user, day, 0, 0⟩ with
        spentSeconds := (m.view k user).spentOn day + n } := by
  have hd : (fun d => (m.ledger.add user day n).2.find user d) =
      ((m.view k user).withDay day { ((m.view k user).days day).getD ⟨user, day, 0, 0⟩ with
        spentSeconds := (m.view k user).spentOn day + n }).days := by
    funext d
    rw [Ledger.find_add h]
    simp only [true_and]
    rfl
  exact congrArg (fun days => { m.view k user with days := days }) hd

/-- Whether a text can be written, and how long it lasts, depends on the time alone. -/
theorem serve_setString_of_clock (key value : String) (ttl : Option Nat) (c : Clock) :
    (∃ e, ∀ m : Memory, m.clock = c → serve (.store (.setString key value ttl)) m =
        (.ok (), m.putString key value e)) ∨
      ∃ o, ∀ m : Memory, m.clock = c → serve (.store (.setString key value ttl)) m = (o, m) := by
  cases ttl with
  | none => exact .inl ⟨none, fun m _ => rfl⟩
  | some n =>
      rcases c.now.after_cases (Signed64.ofUnsigned n) with ⟨x, hx, -⟩ | hx | hx
      · refine .inl ⟨some x, fun m hm => m.run_setString_of_ok ?_⟩
        rw [hm]
        exact hx
      · refine .inr ⟨_, fun m hm => m.run_setString_of_crashed (c := .span) ?_⟩
        rw [hm]
        exact hx
      · refine .inr ⟨_, fun m hm => m.run_setString_of_crashed (c := .instant) ?_⟩
        rw [hm]
        exact hx

/-- A call is answered in the same way, and leaves the same of a user behind. -/
def Concurs (k : Keys) (user : String) (c : Call) (m m' : Memory) : Prop :=
  (serve c m').1 = (serve c m).1 ∧ (serve c m').2.view k user = (serve c m).2.view k user

variable (h : m'.view k user = m.view k user)

include h

theorem concurs_incrScore (b x : Int) :
    Concurs k user (.store (.incrScore (k.accrualSet b) user x)) m m' := by
  have hs : m'.store.getScore (k.accrualSet b) user = m.store.getScore (k.accrualSet b) user := by
    rw [getScore_of_view, getScore_of_view, h]
  unfold Concurs
  by_cases hf : Signed64.Fits (m.store.getScore (k.accrualSet b) user + x)
  · have h1 : serve (.store (.incrScore (k.accrualSet b) user x)) m = _ :=
      m.run_incrScore_of_fits hf
    have h2 : serve (.store (.incrScore (k.accrualSet b) user x)) m' = _ :=
      m'.run_incrScore_of_fits (hs.symm ▸ hf)
    rw [h1, h2, hs, view_putScore, view_putScore, h]
    exact ⟨rfl, rfl⟩
  · have h1 : serve (.store (.incrScore (k.accrualSet b) user x)) m = _ :=
      m.run_incrScore_of_not_fits hf
    have h2 : serve (.store (.incrScore (k.accrualSet b) user x)) m' = _ :=
      m'.run_incrScore_of_not_fits (hs.symm ▸ hf)
    rw [h1, h2]
    exact ⟨rfl, h⟩

theorem concurs_addSpent (day : String) (n : Int) :
    Concurs k user (.ledger (.add user day n)) m m' := by
  have hs : m'.ledger.spentOn user day = m.ledger.spentOn user day := by
    rw [spentOn_of_view k, spentOn_of_view k, h]
  unfold Concurs
  by_cases hf : Signed64.Fits (m.ledger.spentOn user day + n)
  · have hf' : Signed64.Fits (m'.ledger.spentOn user day + n) := hs.symm ▸ hf
    have h1 : serve (.ledger (.add user day n)) m = _ := m.run_addSpent_of_fits hf
    have h2 : serve (.ledger (.add user day n)) m' = _ := m'.run_addSpent_of_fits hf'
    rw [h1, h2, view_addSpent hf, view_addSpent hf', h]
    exact ⟨rfl, rfl⟩
  · have h1 : serve (.ledger (.add user day n)) m = _ := m.run_addSpent_of_not_fits hf
    have h2 : serve (.ledger (.add user day n)) m' = _ :=
      m'.run_addSpent_of_not_fits (hs.symm ▸ hf)
    rw [h1, h2]
    exact ⟨rfl, h⟩

/-- A text that is kept of the user, or any other: what is read of it depends on it and the time. -/
theorem concurs_setString {key : String} (value : String) (ttl : Option Nat)
    (hv : ∀ e, (m'.putString key value e).view k user = (m.putString key value e).view k user) :
    Concurs k user (.store (.setString key value ttl)) m m' := by
  have hc : m'.clock = m.clock := congrArg View.clock h
  unfold Concurs
  rcases serve_setString_of_clock key value ttl m.clock with ⟨e, hs⟩ | ⟨o, hs⟩
  · rw [hs m rfl, hs m' hc]
    exact ⟨rfl, hv e⟩
  · rw [hs m rfl, hs m' hc]
    exact ⟨rfl, h⟩

theorem concurs_getString {key : String}
    (hk : m'.store.strings.get? key = m.store.strings.get? key) :
    Concurs k user (.store (.getString key)) m m' := by
  have hc : m'.clock = m.clock := congrArg View.clock h
  refine ⟨?_, h⟩
  show Outcome.ok (m'.store.getString m'.clock.now key) = .ok (m.store.getString m.clock.now key)
  unfold Store.getString
  rw [hk, hc]

end Memory

namespace Service

open Memory

variable {s : Service} {user : String} {m m' : Memory}

/-- A call of a user is answered by what is kept of the user, and depends on nothing else. -/
theorem OwnCall.concurs {c : Call} (hc : s.OwnCall user c)
    (h : m'.view s.keys user = m.view s.keys user) : Concurs s.keys user c m m' := by
  cases hc with
  | any hc =>
      cases hc with
      | now => exact ⟨congrArg (fun v : View => Outcome.ok v.clock.now) h, h⟩
      | count c n => exact ⟨rfl, h⟩
      | profile => exact ⟨congrArg (fun v : View => Outcome.ok v.profile) h, h⟩
      | getMarker => exact concurs_getString h (congrArg View.marker h)
      | getRange => exact concurs_getString h (congrArg View.range h)
      | setRange range =>
          refine concurs_setString h _ _ fun e => ?_
          rw [view_putRange, view_putRange, h]
      | list bucket =>
          refine ⟨rfl, ?_⟩
          have hl (m : Memory) : (m.putScore s.keys.bucketIndex (toString bucket) bucket).view
              s.keys user = m.view s.keys user :=
            view_putScore_other (.inl Keys.bucket?_bucketIndex) bucket m
          exact (hl m').trans (h.trans (hl m).symm)
      | getScore b =>
          exact ⟨congrArg (fun v : View => Outcome.ok ((v.scores b).getD 0)) h, h⟩
      | reset b =>
          refine ⟨rfl, ?_⟩
          show (m'.putScore (s.keys.accrualSet b) user 0).view s.keys user =
            (m.putScore (s.keys.accrualSet b) user 0).view s.keys user
          rw [view_putScore, view_putScore, h]
      | gain b hg => exact concurs_incrScore h b _
      | spend day hn => exact concurs_addSpent h day _
  | mark hc =>
      obtain ⟨text, ttl⟩ := hc
      refine concurs_setString h _ _ fun e => ?_
      rw [view_putMarker, view_putMarker, h]
  | move hc =>
      cases hc with
      | lift b =>
          refine ⟨rfl, ?_⟩
          show (m'.dropMember (s.keys.accrualSet b) user).view s.keys user =
            (m.dropMember (s.keys.accrualSet b) user).view s.keys user
          rw [view_dropMember, view_dropMember, h]
      | drop b x => exact concurs_incrScore h b x

end Service

/-! ## Requests side by side -/

/-- A request with a number that tells it from equal ones. -/
structure Ticket where
  request : Request
  number : Nat
  deriving DecidableEq

/-- Surroundings, and the programs of the requests that were begun, by their tickets: to leave out a
request does not rename the others. -/
structure Scene where
  memory : Memory
  running : Ticket → Option (Operation Report)

/-- What can happen next in a scene. -/
inductive Turn where
  /-- A request begins, unless its ticket was used. -/
  | begin (t : Ticket)
  /-- The program of a ticket makes its next call, which the backend may refuse. -/
  | step (t : Ticket) (refused : Option Failure)
  | clock (time : Instant)
  /-- A user chooses an alert range in the profile. -/
  | profile (user : String) (range : Int)
  /-- A job is switched on or off. -/
  | switch (job : String) (active : Bool)

/-- The turns of requests about a user, of the profile of the user, and of the clock. -/
def Turn.isOf (user : String) : Turn → Bool
  | .begin t | .step t _ => t.request.user? = some user
  | .clock _ => true
  | .profile u _ => u = user
  | .switch _ _ => false

namespace Scene

/-- Replaces the program of a ticket. -/
def withProgram (S : Scene) (t : Ticket) (p : Operation Report) : Scene :=
  { S with running := fun t' => if t' = t then some p else S.running t' }

/-- Makes a turn. -/
def turn (s : Service) (S : Scene) : Turn → Scene
  | .begin t =>
    match S.running t with
    | none => S.withProgram t (s.perform t.request)
    | some _ => S
  | .step t refused =>
    match S.running t with
    | some (.call c next) =>
      let x : Exchange := ⟨c, S.memory, refused⟩
      { S.withProgram t (next x.reply) with memory := x.after }
    | _ => S
  | .clock time => { S with memory := S.memory.clockAt time }
  | .profile user range =>
    { S with memory := { S.memory with profiles := S.memory.profiles.set user range } }
  | .switch job active => { S with memory := (S.memory.run (s.setActive job active)).2 }

/-- Makes turns one after another. -/
def play (s : Service) : List Turn → Scene → Scene
  | [], S => S
  | a :: rest, S => play s rest (S.turn s a)

end Scene

/-- The calls of a request: those of the user that it is about, else calls that only read. -/
def Service.CallFor (s : Service) (r : Request) (c : Call) : Prop :=
  match r.user? with
  | some user => s.OwnCall user c
  | none => c.isReading = true

theorem Service.only_callFor (s : Service) (r : Request) : (s.perform r).Only (s.CallFor r) := by
  unfold CallFor
  cases h : r.user? with
  | some user => exact only_perform h
  | none => exact reads_perform h

namespace Scene

variable {s : Service} {S S' : Scene} {user : String}

/-- Every program makes calls of its request only. -/
def Orderly (s : Service) (S : Scene) : Prop :=
  ∀ (t : Ticket) (p : Operation Report), S.running t = some p → p.Only (s.CallFor t.request)

theorem turn_begin_of_none {t : Ticket} (h : S.running t = none) :
    S.turn s (.begin t) = S.withProgram t (s.perform t.request) := by
  simp only [turn, h]

theorem turn_begin_of_some {t : Ticket} {p : Operation Report} (h : S.running t = some p) :
    S.turn s (.begin t) = S := by
  simp only [turn, h]

theorem turn_step_of_call {t : Ticket} {refused : Option Failure} {c : Call}
    {next : Outcome c.Reply → Operation Report} (h : S.running t = some (.call c next)) :
    S.turn s (.step t refused) =
      { S.withProgram t (next (⟨c, S.memory, refused⟩ : Exchange).reply) with
        memory := (⟨c, S.memory, refused⟩ : Exchange).after } := by
  simp only [turn, h]

theorem turn_step_of_not_call {t : Ticket} {refused : Option Failure}
    (h : ∀ c next, S.running t ≠ some (.call c next)) : S.turn s (.step t refused) = S := by
  cases ht : S.running t with
  | none => simp only [turn, ht]
  | some p =>
      cases p with
      | done o => simp only [turn, ht]
      | call c next => exact absurd ht (h c next)

theorem running_withProgram_self (S : Scene) (t : Ticket) (p : Operation Report) :
    (S.withProgram t p).running t = some p := if_pos rfl

theorem running_withProgram_of_ne {t t' : Ticket} (h : t' ≠ t) (S : Scene)
    (p : Operation Report) : (S.withProgram t p).running t' = S.running t' := if_neg h

theorem Orderly.withProgram (h : S.Orderly s) {t : Ticket} {p : Operation Report}
    (hp : p.Only (s.CallFor t.request)) : (S.withProgram t p).Orderly s := by
  intro t' p' hp'
  by_cases ht : t' = t
  · subst ht
    rw [running_withProgram_self, Option.some.injEq] at hp'
    exact hp' ▸ hp
  · rw [running_withProgram_of_ne ht] at hp'
    exact h t' p' hp'

theorem Orderly.turn (h : S.Orderly s) (a : Turn) : (S.turn s a).Orderly s := by
  cases a with
  | clock time => exact h
  | profile u range => exact h
  | switch job active => exact h
  | begin t =>
      cases ht : S.running t with
      | none =>
          rw [turn_begin_of_none ht]
          exact h.withProgram (s.only_callFor t.request)
      | some p =>
          rw [turn_begin_of_some ht]
          exact h
  | step t refused =>
      by_cases hc : ∃ c next, S.running t = some (.call c next)
      · obtain ⟨c, next, ht⟩ := hc
        rw [turn_step_of_call ht]
        exact h.withProgram ((h t _ ht).2 _)
      · rw [turn_step_of_not_call fun c next ht => hc ⟨c, next, ht⟩]
        exact h

/-- Two scenes that show the same to a user: the same is kept of the user, and the requests of the
user stand at the same point. -/
structure Twin (k : Keys) (user : String) (S S' : Scene) : Prop where
  view : S'.memory.view k user = S.memory.view k user
  running : ∀ t : Ticket, t.request.user? = some user → S'.running t = S.running t

/-- A call of a request that is not about the user leaves what is kept of the user alone. -/
theorem view_after_other {r : Request} (hr : r.user? ≠ some user) {c : Call}
    (hc : s.CallFor r c) (m : Memory) (refused : Option Failure) :
    (⟨c, m, refused⟩ : Exchange).after.view s.keys user = m.view s.keys user := by
  rcases Exchange.cases_refusal c m refused with ⟨e, -, ha⟩ | ⟨-, ha⟩
  · rw [ha]
  · rw [ha]
    unfold Service.CallFor at hc
    split at hc
    · rename_i v hv
      exact hc.view_eq (fun e => hr (hv.trans (congrArg some e.symm))) m
    · exact (Memory.agree_serve hc m).view_eq

/-- A turn of others shows nothing to the user. -/
theorem twin_turn_other (h : S.Orderly s) {a : Turn} (ha : a.isOf user = false) :
    Twin s.keys user S (S.turn s a) := by
  have hne {t t' : Ticket} (ht : t.request.user? ≠ some user)
      (ht' : t'.request.user? = some user) : t' ≠ t := fun e => ht (e ▸ ht')
  cases a with
  | clock time => cases ha
  | profile u range =>
      have hu : user ≠ u := fun e => of_decide_eq_false ha e.symm
      refine ⟨?_, fun t _ => rfl⟩
      unfold turn Memory.view
      dsimp only
      rw [Table.get?_set_of_ne _ _ hu]
  | switch job active =>
      have hk := Keys.jobSwitch_ne (k := s.keys) job user
      exact ⟨Memory.view_setString_other hk.1 hk.2 _ none S.memory, fun t _ => rfl⟩
  | begin t =>
      have ht := of_decide_eq_false ha
      cases hr : S.running t with
      | none =>
          rw [turn_begin_of_none hr]
          exact ⟨rfl, fun t' ht' => running_withProgram_of_ne (hne ht ht') S _⟩
      | some p =>
          rw [turn_begin_of_some hr]
          exact ⟨rfl, fun _ _ => rfl⟩
  | step t refused =>
      have ht := of_decide_eq_false ha
      by_cases hc : ∃ c next, S.running t = some (.call c next)
      · obtain ⟨c, next, hr⟩ := hc
        rw [turn_step_of_call hr]
        exact ⟨view_after_other ht (h t _ hr).1 S.memory refused,
          fun t' ht' => running_withProgram_of_ne (hne ht ht') S _⟩
      · rw [turn_step_of_not_call fun c next hr => hc ⟨c, next, hr⟩]
        exact ⟨rfl, fun _ _ => rfl⟩

theorem Twin.withProgram (h : Twin s.keys user S S') (t : Ticket) (p : Operation Report) :
    Twin s.keys user (S.withProgram t p) (S'.withProgram t p) := by
  refine ⟨h.view, fun t' ht' => ?_⟩
  by_cases he : t' = t
  · subst he
    rw [running_withProgram_self, running_withProgram_self]
  · rw [running_withProgram_of_ne he, running_withProgram_of_ne he]
    exact h.running t' ht'

/-- A call of the user comes back with the same in both scenes, refused or not, and leaves the same
behind. -/
theorem Twin.exchange (h : Twin s.keys user S S') {c : Call} (hc : s.OwnCall user c)
    (refused : Option Failure) :
    (⟨c, S'.memory, refused⟩ : Exchange).reply = (⟨c, S.memory, refused⟩ : Exchange).reply ∧
      (⟨c, S'.memory, refused⟩ : Exchange).after.view s.keys user =
        (⟨c, S.memory, refused⟩ : Exchange).after.view s.keys user := by
  rcases Exchange.refused_or_served c refused with ⟨e, hr⟩ | hr
  · rw [(hr _).1, (hr _).1, (hr _).2, (hr _).2]
    exact ⟨rfl, h.view⟩
  · rw [(hr _).1, (hr _).1, (hr _).2, (hr _).2]
    exact hc.concurs h.view

/-- A turn of the user is the same turn in both scenes. -/
theorem Twin.turn (h : Twin s.keys user S S') (hS : S.Orderly s) {a : Turn}
    (ha : a.isOf user = true) : Twin s.keys user (S.turn s a) (S'.turn s a) := by
  cases a with
  | switch job active => cases ha
  | clock time =>
      exact ⟨congrArg (fun v : View => { v with clock := ⟨time, false⟩ }) h.view, h.running⟩
  | profile u range =>
      obtain rfl := of_decide_eq_true ha
      refine ⟨?_, h.running⟩
      have hv := congrArg (fun v : View => { v with profile := some range }) h.view
      unfold Scene.turn Memory.view
      dsimp only
      rw [Table.get?_set_self, Table.get?_set_self]
      exact hv
  | begin t =>
      have hr := h.running t (of_decide_eq_true ha)
      cases ht : S.running t with
      | none =>
          rw [turn_begin_of_none ht, turn_begin_of_none (hr.trans ht)]
          exact h.withProgram t _
      | some p =>
          rw [turn_begin_of_some ht, turn_begin_of_some (hr.trans ht)]
          exact h
  | step t refused =>
      have hu := of_decide_eq_true ha
      have hr := h.running t hu
      by_cases hc : ∃ c next, S.running t = some (.call c next)
      · obtain ⟨c, next, ht⟩ := hc
        have hown : s.OwnCall user c := by
          have hf := (hS t _ ht).1
          unfold Service.CallFor at hf
          rw [hu] at hf
          exact hf
        obtain ⟨hreply, hafter⟩ := h.exchange hown refused
        rw [turn_step_of_call ht, turn_step_of_call (hr.trans ht), hreply]
        exact ⟨hafter, (h.withProgram t _).running⟩
      · rw [turn_step_of_not_call fun c next ht => hc ⟨c, next, ht⟩,
          turn_step_of_not_call fun c next ht => hc ⟨c, next, hr.symm.trans ht⟩]
        exact h

theorem Twin.play (h : Twin s.keys user S S') (hS : S.Orderly s) (turns : List Turn) :
    Twin s.keys user (S.play s turns) (S'.play s (turns.filter (Turn.isOf user))) := by
  -- the induction is on the turns; a turn of others is made in the first scene only
  induction turns generalizing S S' with
  | nil => exact h
  | cons a rest ih =>
      cases ha : a.isOf user with
      | true =>
          rw [List.filter_cons_of_pos ha]
          exact ih (h.turn hS ha) (hS.turn a)
      | false =>
          rw [List.filter_cons_of_neg (by rw [ha]; exact Bool.false_ne_true)]
          have ho := twin_turn_other hS ha
          refine ih ⟨h.view.trans ho.view.symm, fun t ht => ?_⟩ (hS.turn a)
          exact (h.running t ht).trans (ho.running t ht).symm

/-- Whatever the names of the users are, and however their requests, scans, job switches, profile
updates and moves of the clock follow each other: without all that is not of a user, the requests of
the user stand at the same point, with the same outcomes, and the same is kept of the user. -/
theorem view_running_play_filter (s : Service) (m : Memory) (user : String) (turns : List Turn) :
    let T := Scene.play s turns ⟨m, fun _ => none⟩
    let T' := Scene.play s (turns.filter (Turn.isOf user)) ⟨m, fun _ => none⟩
    T'.memory.view s.keys user = T.memory.view s.keys user ∧
      ∀ t : Ticket, t.request.user? = some user → T'.running t = T.running t := by
  have h : Twin s.keys user ⟨m, fun _ => none⟩ ⟨m, fun _ => none⟩ := ⟨rfl, fun _ _ => rfl⟩
  have ho : (⟨m, fun _ => none⟩ : Scene).Orderly s := fun _ _ hp => (nomatch hp)
  have ht := h.play ho turns
  exact ⟨ht.view, ht.running⟩

end Scene

end Presence
