import Presence.Program

/-!
# Programs under a contract

A contract says which calls a program may make and what can come of them. A program keeps a contract
if it makes allowed calls only, however they are answered, and ends as stated. Main statements:
`keeps_bind`, a sequence keeps a contract if its parts do, and `keeps_exact_iff`, under the contract
of surroundings that answer every call this is a statement about the run of the program.
-/

set_option autoImplicit false

namespace Presence

/-- What a program may ask in a state, and what can come of a call: the reply and the state after
it. -/
structure Contract {κ : Type} (Reply : κ → Type) (σ : Type) where
  allows : κ → σ → Prop
  answers : (c : κ) → σ → Outcome (Reply c) → σ → Prop

/-- The contract of surroundings that answer every call. -/
def Contract.exact {κ : Type} {Reply : κ → Type} {σ : Type}
    (serve : (c : κ) → σ → Outcome (Reply c) × σ) : Contract Reply σ where
  allows _ _ := True
  answers c s r t := serve c s = (r, t)

namespace Program

variable {κ : Type} {Reply : κ → Type} {σ α β : Type}

/-- A program asks only what the contract allows, however it is answered, and ends as stated. -/
def Keeps (K : Contract Reply σ) (Q : Outcome α → σ → Prop) : Program Reply α → σ → Prop
  | .done o, s => Q o s
  | .call c next, s => K.allows c s ∧ ∀ r t, K.answers c s r t → Keeps K Q (next r) t

/-- What has to hold after the first part of a sequence: its value leads on, a failure or a crash
ends the sequence as well. -/
def onward (Q : Outcome β → σ → Prop) (R : α → σ → Prop) : Outcome α → σ → Prop
  | .ok a, s => R a s
  | .failed e, s => Q (.failed e) s
  | .crashed c, s => Q (.crashed c) s

variable {K : Contract Reply σ} {Q : Outcome α → σ → Prop} {s : σ}

theorem keeps_settle {p : Program Reply α} {f : Outcome α → Program Reply β}
    {Q : Outcome β → σ → Prop} :
    Keeps K Q (p.settle f) s ↔ Keeps K (fun o t => Keeps K Q (f o) t) p s := by
  induction p generalizing s with
  | done o => exact Iff.rfl
  | call c next ih =>
      -- the call itself is the same on both sides
      show (_ ∧ _) ↔ (_ ∧ _)
      refine and_congr_right fun _ => ?_
      exact forall_congr' fun r => forall_congr' fun t => imp_congr_right fun _ => ih r

theorem Keeps.mono {Q' : Outcome α → σ → Prop} (h : ∀ o t, Q o t → Q' o t)
    {p : Program Reply α} : Keeps K Q p s → Keeps K Q' p s := by
  induction p generalizing s with
  | done o => exact h o s
  | call c next ih => exact fun hp => ⟨hp.1, fun r t hr => ih r (hp.2 r t hr)⟩

/-- A sequence keeps a contract if its parts do, one after the other. -/
theorem keeps_bind {p : Program Reply α} {f : α → Program Reply β} {Q : Outcome β → σ → Prop} :
    Keeps K Q (p >>= f) s ↔ Keeps K (onward Q fun a t => Keeps K Q (f a) t) p s := by
  show Keeps K Q (p.settle _) s ↔ _
  rw [keeps_settle]
  constructor
  · intro h
    refine h.mono fun o t ho => ?_
    cases o <;> exact ho
  · intro h
    refine h.mono fun o t ho => ?_
    cases o <;> exact ho

/-- A program keeps a contract, and if it ends with a value then as stated. -/
def Meets (K : Contract Reply σ) (p : Program Reply α) (F : α → σ → Prop) (s : σ) : Prop :=
  Keeps K (fun o t => ∀ a, o = .ok a → F a t) p s

section Meets

variable {F : α → σ → Prop}

theorem meets_pure {a : α} (h : F a s) : Meets K (pure a) F s := by
  rintro b ⟨⟩
  exact h

theorem Meets.bind {p : Program Reply α} {f : α → Program Reply β} {G : β → σ → Prop}
    (hp : Meets K p F s) (hf : ∀ a t, F a t → Meets K (f a) G t) : Meets K (p >>= f) G s := by
  refine keeps_bind.2 (Keeps.mono (fun o t h => ?_) hp)
  cases o with
  | ok a => exact hf a t (h a rfl)
  | failed e => exact fun b hb => (by cases hb)
  | crashed c => exact fun b hb => (by cases hb)

theorem meets_ask {c : κ} {F : Reply c → σ → Prop} (h : K.allows c s)
    (hF : ∀ a t, K.answers c s (.ok a) t → F a t) : Meets K (ask c) F s := by
  refine ⟨h, ?_⟩
  rintro r t hr a rfl
  exact hF a t hr

end Meets

theorem keeps_exact_iff {serve : (c : κ) → σ → Outcome (Reply c) × σ} {p : Program Reply α} :
    Keeps (Contract.exact serve) Q p s ↔ Q (run serve p s).1 (run serve p s).2 := by
  induction p generalizing s with
  | done o => exact Iff.rfl
  | call c next ih =>
      show (True ∧ ∀ r t, serve c s = (r, t) → _) ↔ _
      rw [true_and]
      constructor
      · intro h
        exact ih _ |>.1 (h _ _ rfl)
      · -- the only answer is the one that is served
        intro h r t hr
        have := (ih (serve c s).1).2 h
        rw [hr] at this
        exact this

end Program

end Presence
