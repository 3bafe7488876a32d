import Presence.Outcome

/-!
# Programs over calls

A program is a tree: it has ended, or it makes a call and goes on with whatever the call comes
back with. A call may come back with a value, a failure or a crash. The operations of the service
are programs, so that one text of an operation can be run to its end (`run`), stopped between any
two calls (`advance`), interleaved with others, or expressed by the calls of another layer
(`translate`).

Main statements: the monad laws `bind_assoc` and `bind_pure`, and `run_bind`, which says that a
sequence is run part after part.
-/

set_option autoImplicit false

namespace Presence

/-- A program that makes calls with the given replies and ends with a value of a type. -/
inductive Program {κ : Type} (Reply : κ → Type) (α : Type) where
  | done (outcome : Outcome α)
  | call (c : κ) (next : Outcome (Reply c) → Program Reply α)

namespace Program

variable {κ : Type} {Reply : κ → Type} {α β γ δ : Type}

/-- The program that makes one call and ends as the call does. -/
def ask (c : κ) : Program Reply (Reply c) := .call c .done

/-- The program that ends at once with a value. -/
def ret (a : α) : Program Reply α := .done (.ok a)

/-- The program that fails at once. -/
def fail (e : Failure) : Program Reply α := .done (.failed e)

/-- Goes on after the end of a program, however it ends. -/
def settle (p : Program Reply α) (f : Outcome α → Program Reply β) : Program Reply β :=
  match p with
  | .done o => f o
  | .call c next => .call c fun r => settle (next r) f

/-- Goes on after a program that ends with a value. -/
def bind (p : Program Reply α) (f : α → Program Reply β) : Program Reply β :=
  p.settle fun
    | .ok a => f a
    | .failed e => .done (.failed e)
    | .crashed c => .done (.crashed c)

instance : Monad (Program Reply) where
  pure := ret
  bind := bind

/-- Makes a failure of a program a value, so that what follows can handle it. A crash stays one. -/
def attempt (p : Program Reply α) : Program Reply (Except Failure α) :=
  p.settle fun
    | .ok a => ret (.ok a)
    | .failed e => ret (.error e)
    | .crashed c => .done (.crashed c)

/-- Makes calls after a program however it ends, and then ends as the program did. -/
def ensuring (p : Program Reply α) (last : Program Reply PUnit) : Program Reply α :=
  p.settle fun o => last.settle fun _ => .done o

/-- Runs a program to its end. `serve` answers a call and changes the state. -/
def run {σ : Type} (serve : (c : κ) → σ → Outcome (Reply c) × σ) :
    Program Reply α → σ → Outcome α × σ
  | .done o, s => (o, s)
  | .call c next, s => run serve (next (serve c s).1) (serve c s).2

/-- Runs a program up to, and with, the first call of a kind. -/
def advance {σ : Type} (serve : (c : κ) → σ → Outcome (Reply c) × σ) (stop : κ → Bool) :
    Program Reply α → σ → Program Reply α × σ
  | .done o, s => (.done o, s)
  | .call c next, s =>
    if stop c then (next (serve c s).1, (serve c s).2)
    else advance serve stop (next (serve c s).1) (serve c s).2

/-- Runs a program up to, and without, the first call that is to stop it in the state at hand. -/
def advanceTo {σ : Type} (serve : (c : κ) → σ → Outcome (Reply c) × σ) (stop : κ → σ → Bool) :
    Program Reply α → σ → Program Reply α × σ
  | .done o, s => (.done o, s)
  | .call c next, s =>
    if stop c s then (.call c next, s)
    else advanceTo serve stop (next (serve c s).1) (serve c s).2

/-- Expresses every call of a program by a program over other calls. -/
def translate {κ' : Type} {Reply' : κ' → Type} (f : (c : κ) → Program Reply' (Reply c)) :
    Program Reply α → Program Reply' α
  | .done o => .done o
  | .call c next => (f c).settle fun o => translate f (next o)

/-- What goes on after the end of a program can itself be gone on after. -/
theorem settle_settle (p : Program Reply α) (f : Outcome α → Program Reply β)
    (g : Outcome β → Program Reply δ) :
    (p.settle f).settle g = p.settle fun o => (f o).settle g := by
  induction p with
  | done o => rfl
  | call c next ih => exact congrArg _ (funext ih)

@[simp]
theorem settle_done (p : Program Reply α) : p.settle .done = p := by
  induction p with
  | done o => rfl
  | call c next ih => exact congrArg _ (funext ih)

/-- Whatever goes on after a program is run where that has ended. -/
theorem run_settle {σ : Type} (serve : (c : κ) → σ → Outcome (Reply c) × σ)
    (p : Program Reply α) (f : Outcome α → Program Reply β) (s : σ) :
    run serve (p.settle f) s = run serve (f (run serve p s).1) (run serve p s).2 := by
  induction p generalizing s with
  | done o => rfl
  | call c next ih => exact ih _ _

/-- A sequence is run part after part. -/
theorem run_bind {σ : Type} (serve : (c : κ) → σ → Outcome (Reply c) × σ)
    (p : Program Reply α) (f : α → Program Reply β) (s : σ) :
    run serve (p >>= f) s =
      match run serve p s with
      | (.ok a, t) => run serve (f a) t
      | (.failed e, t) => (.failed e, t)
      | (.crashed c, t) => (.crashed c, t) := by
  show run serve (p.settle _) s = _
  rw [run_settle]
  rcases run serve p s with ⟨o, t⟩
  cases o <;> rfl

/-- Sequences can be regrouped. -/
theorem bind_assoc (p : Program Reply α) (f : α → Program Reply β) (g : β → Program Reply γ) :
    (p >>= f) >>= g = p >>= fun a => f a >>= g := by
  show (p.settle _).settle _ = p.settle _
  rw [settle_settle]
  congr 1
  funext o
  cases o <;> rfl

theorem bind_pure (p : Program Reply α) : p >>= pure = p := by
  show p.settle _ = p
  conv => rhs; rw [← settle_done p]
  congr 1
  funext o
  cases o <;> rfl

end Program

end Presence
