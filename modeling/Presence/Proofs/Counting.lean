import Mathlib.Algebra.GroupWithZero.Nat
import Presence.Metrics

/-!
# What a counter shows

Counters are words of 64 bits. Main statements: counting changes the counter at hand only
(`Metrics.value_add`), and what was counted in parts was counted as a whole (`Counts.trans`,
`Counts.sum`).
-/

set_option autoImplicit false

namespace Presence

/-- A counter that has shown `v` shows `w` after `n` more were counted: the sum, unless it has left
its word, and then what is left of it in the word. -/
structure Counts (v n w : Nat) : Prop where
  mod : w % 18446744073709551616 = (v + n) % 18446744073709551616
  eq_of_lt : v + n < 18446744073709551616 → w = v + n

namespace Counts

variable {v w x n k : Nat}

theorem refl (v : Nat) : Counts v 0 v := ⟨rfl, fun _ => rfl⟩

theorem plus (v n : Nat) : Counts v n (Metrics.plus v n) where
  mod := Nat.mod_mod _ _
  eq_of_lt := Nat.mod_eq_of_lt

theorem trans (h : Counts v n w) (h' : Counts w k x) : Counts v (n + k) x where
  mod := by
    have := h.mod
    have := h'.mod
    omega
  eq_of_lt hlt := by
    have := h.eq_of_lt (by omega)
    have := h'.eq_of_lt (by omega)
    omega

/-- Two counters together. -/
theorem add {v' w' : Nat} (h : Counts v n w) (h' : Counts v' k w') :
    Counts (v + v') (n + k) (w + w') where
  mod := by
    have := h.mod
    have := h'.mod
    omega
  eq_of_lt hlt := by
    have := h.eq_of_lt (by omega)
    have := h'.eq_of_lt (by omega)
    omega

/-- Many counters together. -/
theorem sum {κ : Type} {v n w : κ → Nat} {ks : List κ} (h : ∀ k ∈ ks, Counts (v k) (n k) (w k)) :
    Counts (ks.map v).sum (ks.map n).sum (ks.map w).sum := by
  induction ks with
  | nil => exact .refl 0
  | cons k rest ih =>
      simp only [List.map_cons, List.sum_cons]
      exact (h k List.mem_cons_self).add (ih fun x hx => h x (List.mem_cons_of_mem k hx))

end Counts

namespace Metrics

/-- Counting changes the counter at hand only. -/
theorem value_add (m : Metrics) (c d : Counter) (n : Nat) :
    (m.add c n).value d = if d = c then plus (m.value c) n else m.value d := by
  have hlabel (t : Table String Nat) (l l' : String) :
      (addTo t l n).getD l' 0 = if l' = l then plus (t.getD l 0) n else t.getD l' 0 := by
    unfold addTo Table.modify
    by_cases h : l' = l
    · subst h
      rw [if_pos rfl, Table.getD, Table.get?_set_self, Option.getD_some]
    · rw [if_neg h, Table.getD, Table.get?_set_of_ne _ _ h]
      rfl
  cases c <;> cases d <;>
    simp only [add, value, hlabel, reduceCtorEq, if_false, if_true, Counter.eventsProcessed.injEq,
      Counter.eventsFailed.injEq, Counter.alertsSent.injEq, Counter.scansSkipped.injEq]

theorem counts_add (m : Metrics) (c : Counter) (n : Nat) :
    Counts (m.value c) n ((m.add c n).value c) := by
  rw [value_add, if_pos rfl]
  exact .plus _ _

theorem value_add_of_ne (m : Metrics) {c d : Counter} (h : d ≠ c) (n : Nat) :
    (m.add c n).value d = m.value d := by
  rw [value_add, if_neg h]

end Metrics

end Presence
