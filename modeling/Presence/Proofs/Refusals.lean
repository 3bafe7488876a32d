import Presence.Proofs.Conservation
import Presence.Proofs.Interleaving
import Presence.Proofs.UserCalls

/-!
# Operations whose calls may be refused

A trail holds the surroundings and all calls that were made in them. Which calls are refused is a
function of their number and of the calls themselves, so that every pattern of failures is one such
function. Main statements: what a program keeps under the contract of backends that may refuse calls
of a kind holds of its run (`Trail.run_of_keeps`), and a program that makes no call of the kind runs
as it does where nothing goes wrong (`Trail.keeps_of_run`).
-/

set_option autoImplicit false

namespace Presence

open Operation Program

/-- A call that does not succeed changes nothing. -/
theorem Memory.serve_of_not_ok {c : Call} {m : Memory} (h : (serve c m).1.isOk = false) :
    (serve c m).2 = m := by
  cases c with
  | store c =>
      cases c with
      | setString key value ttl =>
          cases ttl with
          | none => cases h
          | some n =>
              rcases m.serve_setString key value n with ⟨x, hs⟩ | ⟨e, hs⟩
              · rw [hs] at h
                cases h
              · rw [hs]
      | incrScore set member delta =>
          rcases m.serve_incrScore set member delta with hs | hs
          · rw [hs] at h
            cases h
          · rw [hs]
      | _ => cases h
  | ledger c =>
      cases c with
      | add user day seconds =>
          rcases m.serve_addSpent user day seconds with ⟨hs, -⟩ | hs
          · rw [hs] at h
            cases h
          · rw [hs]
      | _ => cases h
  | queue c =>
      cases c with
      | next timeout =>
          show { m with queue := (m.queue.next timeout).2 } = m
          have hn : (m.queue.next timeout).1.isOk = false := h
          unfold Queue.next Queue.pop at hn ⊢
          cases hq : m.queue.ready with
          | cons p rest =>
             rw [hq] at hn
             cases hn
          | nil =>
             rw [hq] at hn
             dsimp only at hn ⊢
             split at hn
             · cases hn
             · rename_i hw
               rw [if_neg hw]
      | _ => cases h
  | _ => cases h

/-- A call that does not succeed, refused or not, changes nothing. -/
theorem Exchange.after_of_not_ok {x : Exchange} (h : x.reply.isOk = false) :
    x.after = x.before := by
  obtain ⟨c, m, refused⟩ := x
  rcases cases_refusal c m refused with ⟨e, -, ha⟩ | ⟨hr, ha⟩
  · exact ha
  · rw [hr] at h
    exact ha.trans (Memory.serve_of_not_ok h)

/-- What a program keeps under a contract holds of its run, where all calls are answered as the
contract says. -/
theorem Program.Keeps.run {κ : Type} {Reply : κ → Type} {σ α : Type} {K : Contract Reply σ}
    {Q : Outcome α → σ → Prop} {serve : (c : κ) → σ → Outcome (Reply c) × σ}
    (hs : ∀ c t, K.answers c t (serve c t).1 (serve c t).2) {p : Program Reply α} {t : σ}
    (h : p.Keeps K Q t) : Q (Program.run serve p t).1 (Program.run serve p t).2 := by
  induction p generalizing t with
  | done o => exact h
  | call c next ih => exact ih _ (h.2 _ _ (hs c t))

/-- A function of the value is applied to whatever a program ends with. -/
theorem Program.Keeps.map {κ : Type} {Reply : κ → Type} {σ α β : Type} {K : Contract Reply σ}
    {R : Outcome β → σ → Prop} {p : Program Reply α} {t : σ} (f : α → β)
    (h : p.Keeps K (fun o t => R (o.map f) t) t) : (p >>= fun a => pure (f a)).Keeps K R t := by
  refine keeps_bind.2 (h.mono fun o t ho => ?_)
  cases o <;> exact ho

/-- Which calls are refused, and with which failure: by the number of the call and by the call. -/
abbrev Refusals := Nat → Call → Option Failure

/-- Only calls of a kind are refused. -/
def Refusals.Within (f : Refusals) (P : Call → Prop) : Prop := ∀ n c, f n c ≠ none → P c

/-- Surroundings, and the calls that were made in them, the latest first. -/
structure Trail where
  memory : Memory
  calls : List Exchange := []

namespace Trail

/-- The trail after one more call. -/
def extend (T : Trail) (x : Exchange) : Trail := ⟨x.after, x :: T.calls⟩

/-- Answers a call, or refuses it. -/
def serve (f : Refusals) (c : Call) (T : Trail) : Outcome c.Reply × Trail :=
  let x : Exchange := ⟨c, T.memory, f T.calls.length c⟩
  (x.reply, T.extend x)

/-- Runs an operation to its end. -/
def run {α : Type} (f : Refusals) (p : Operation α) (T : Trail) : Outcome α × Trail :=
  Program.run (serve f) p T

/-- Lets one thing happen. -/
def happen (s : Service) (f : Refusals) : Happening → Trail → List Entry × Trail
  | .request r, T => ([⟨r, (T.run f (s.perform r)).1⟩], (T.run f (s.perform r)).2)
  | .profile u r, T =>
    ([], { T with memory := { T.memory with profiles := T.memory.profiles.set u r } })
  | .clock t, T => ([], { T with memory := T.memory.clockAt t })

/-- Lets things happen one after another. -/
def proceed (s : Service) (f : Refusals) : List Happening → Trail → List Entry × Trail
  | [], T => ([], T)
  | h :: rest, T =>
    let (es, T) := T.happen s f h
    let (fs, T) := T.proceed s f rest
    (es ++ fs, T)

theorem proceed_append (s : Service) (f : Refusals) (hs ks : List Happening) (T : Trail) :
    T.proceed s f (hs ++ ks) =
      ((T.proceed s f hs).1 ++ ((T.proceed s f hs).2.proceed s f ks).1,
        ((T.proceed s f hs).2.proceed s f ks).2) := by
  induction hs generalizing T with
  | nil => rfl
  | cons h rest ih => simp only [List.cons_append, proceed, ih, List.append_assoc]

theorem proceed_concat (s : Service) (f : Refusals) (hs : List Happening) (h : Happening)
    (T : Trail) :
    T.proceed s f (hs ++ [h]) =
      ((T.proceed s f hs).1 ++ ((T.proceed s f hs).2.happen s f h).1,
        ((T.proceed s f hs).2.happen s f h).2) := by
  rw [proceed_append]
  simp only [proceed, List.append_nil]

/-! ## The contract of backends that may refuse -/

/-- The contract of backends that may refuse the calls of a kind. -/
def refusing (P : Call → Prop) : Contract Call.Reply Trail where
  allows _ _ := True
  answers c T r T' := ∃ refused : Option Failure, (refused ≠ none → P c) ∧
    r = (⟨c, T.memory, refused⟩ : Exchange).reply ∧ T' = T.extend ⟨c, T.memory, refused⟩

variable {P : Call → Prop} {α β : Type} {T : Trail}

theorem run_of_keeps {f : Refusals} (hf : f.Within P) {p : Operation α}
    {Q : Outcome α → Trail → Prop} (h : p.Keeps (refusing P) Q T) :
    Q (T.run f p).1 (T.run f p).2 := by
  have hs : ∀ c T', (refusing P).answers c T' (serve f c T').1 (serve f c T').2 :=
    fun c T' => ⟨f T'.calls.length c, hf _ c, rfl, rfl⟩
  exact h.run hs

/-- The contract of backends that may refuse every call. -/
abbrev anyRefusing : Contract Call.Reply Trail := refusing fun _ => True

theorem run_of_keeps_any (f : Refusals) {p : Operation α} {Q : Outcome α → Trail → Prop}
    (h : p.Keeps anyRefusing Q T) : Q (T.run f p).1 (T.run f p).2 :=
  run_of_keeps (fun _ _ _ => True.intro) h

/-- A call that may be refused, with what follows it. -/
theorem keeps_bind_of {c : Call} {g : c.Reply → Operation α} {Q : Outcome α → Trail → Prop}
    (h : ∀ refused : Option Failure, (refused ≠ none → P c) →
      onward Q (fun a T' => (g a).Keeps (refusing P) Q T')
        (⟨c, T.memory, refused⟩ : Exchange).reply (T.extend ⟨c, T.memory, refused⟩)) :
    (of c >>= g).Keeps (refusing P) Q T := by
  refine keeps_bind.2 ⟨True.intro, ?_⟩
  rintro r T' ⟨refused, hr, rfl, rfl⟩
  exact h refused hr

/-- A call that changes nothing unless it succeeds, with what follows it then. -/
theorem keeps_bind_of_cases {c : Call} {g : c.Reply → Operation α} {Q : Outcome α → Trail → Prop}
    (hfail : ∀ refused o, o.isOk = false → (⟨c, T.memory, refused⟩ : Exchange).reply.isOk = false →
      (⟨c, T.memory, refused⟩ : Exchange).after = T.memory →
        Q o (T.extend ⟨c, T.memory, refused⟩))
    (hok : ∀ refused a, (Memory.serve c T.memory).1 = .ok a →
        (⟨c, T.memory, refused⟩ : Exchange).after = (Memory.serve c T.memory).2 →
      (g a).Keeps (refusing P) Q (T.extend ⟨c, T.memory, refused⟩)) :
    (of c >>= g).Keeps (refusing P) Q T := by
  refine keeps_bind_of fun refused _ => ?_
  have hf (h : (⟨c, T.memory, refused⟩ : Exchange).reply.isOk = false) (o : Outcome α)
      (ho : o.isOk = false) := hfail refused o ho h (Exchange.after_of_not_ok h)
  cases hr : (⟨c, T.memory, refused⟩ : Exchange).reply with
  | failed e => exact hf (by rw [hr]; rfl) _ rfl
  | crashed e => exact hf (by rw [hr]; rfl) _ rfl
  | ok a =>
      rcases Exchange.cases_refusal c T.memory refused with ⟨e, he, -⟩ | ⟨he, ha⟩
      · rw [he] at hr
        cases hr
      · exact hok refused a (he.symm.trans hr) ha

/-- A call that is not refused, with what follows it. -/
theorem keeps_bind_of_served {c : Call} {g : c.Reply → Operation α}
    {Q : Outcome α → Trail → Prop} (hc : ¬ P c) {a : c.Reply} {m' : Memory}
    (hs : Memory.serve c T.memory = (.ok a, m'))
    (h : (g a).Keeps (refusing P) Q ⟨m', ⟨c, T.memory, none⟩ :: T.calls⟩) :
    (of c >>= g).Keeps (refusing P) Q T := by
  refine keeps_bind_of fun refused hr => ?_
  obtain rfl : refused = none := by_contra fun hne => hc (hr hne)
  unfold extend
  rw [Exchange.reply_of_none, Exchange.after_of_none, hs]
  exact h

/-- What every call of a program keeps, refused or not, is kept by the program. -/
theorem keeps_of_only {Q : Call → Prop} {I : Memory → Prop}
    (h : ∀ c m refused, Q c → I m → I (⟨c, m, refused⟩ : Exchange).after) {p : Operation α}
    (hp : p.Only Q) (hI : I T.memory) :
    p.Keeps (refusing P) (fun _ T' => I T'.memory) T := by
  refine Only.keeps (I := fun T' : Trail => I T'.memory) (fun c T' hc hT => ?_) hp hI
  refine ⟨True.intro, ?_⟩
  rintro r T'' ⟨refused, -, rfl, rfl⟩
  exact h c T'.memory refused hc hT

/-- No call changes a profile. -/
theorem profiles_run (f : Refusals) (p : Operation α) (T : Trail) :
    (T.run f p).2.memory.profiles = T.memory.profiles := by
  have hp : p.Only fun _ => True := by
    induction p with
    | done o => exact True.intro
    | call c next ih => exact ⟨True.intro, ih⟩
  refine run_of_keeps (P := fun _ => True) (fun _ _ _ => True.intro)
    (keeps_of_only (I := fun m => m.profiles = T.memory.profiles) (fun c m refused _ hm => ?_) hp
      rfl)
  refine Exchange.holds_after (I := fun m' => m'.profiles = T.memory.profiles) hm ?_ refused
  rw [← hm]
  cases c <;> rfl

/-- A program without calls of the kind is not refused anything. -/
theorem keeps_of_run {p : Operation α} (hp : p.Only fun c => ¬ P c)
    {R : Outcome α → Memory → Prop} (h : R (T.memory.run p).1 (T.memory.run p).2) :
    p.Keeps (refusing P) (fun o T' => R o T'.memory) T := by
  induction p generalizing T with
  | done o => exact h
  | call c next ih =>
      refine ⟨True.intro, ?_⟩
      rintro r T' ⟨refused, hr, rfl, rfl⟩
      obtain rfl : refused = none := by_contra fun hne => hp.1 (hr hne)
      unfold extend
      rw [Exchange.reply_of_none, Exchange.after_of_none]
      exact ih _ (hp.2 _) h

/-- Alert ranges stay numbers of 64 bits. -/
theorem ranges_happen {s : Service} (h : s.RangesFit T.memory) (f : Refusals) {a : Happening}
    (hin : a.InRange) : s.RangesFit (T.happen s f a).2.memory := by
  cases a with
  | request r => exact h.of_profiles (profiles_run f _ T)
  | clock t => exact h.of_profiles rfl
  | profile u r =>
      refine ⟨h.default_pos, h.default_fits, fun v r' hv => ?_⟩
      have hset : (T.memory.profiles.set u r).get? v = some r' := hv
      rw [Table.get?_set] at hset
      split at hset
      · cases hset
        exact hin
      · exact h.profiles v r' hset

end Trail

end Presence
