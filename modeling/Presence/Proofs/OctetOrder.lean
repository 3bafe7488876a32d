import Mathlib.Data.String.Basic
import Mathlib.Order.Lattice

/-!
# The order of texts by their octets

Texts are compared by their characters. Main statements: `octets_lt_iff`, comparing the octets of
their UTF-8 forms instead comes to the same, and `isLE_compare_iff` and `compare_eq_lt_iff`, which
say it of the comparison that tables are kept by.
-/

set_option autoImplicit false

namespace Presence.Text

/-- The octets of a character in UTF-8. -/
def octetsOf (c : Char) : List Nat := (String.utf8EncodeChar c).map UInt8.toNat

/-- The octets of a text in UTF-8. -/
def octets (s : String) : List Nat := s.toList.flatMap octetsOf

/-- Two lists differ somewhere inside both, and there the first one has the smaller item. -/
def Parts : List Nat → List Nat → Prop
  | x :: xs, y :: ys => x < y ∨ x = y ∧ Parts xs ys
  | _, _ => False

theorem Parts.append_lt {xs ys : List Nat} (h : Parts xs ys) (us vs : List Nat) :
    xs ++ us < ys ++ vs := by
  induction xs generalizing ys with
  | nil => exact absurd h (by simp [Parts])
  | cons x xs ih =>
      cases ys with
      | nil => exact absurd h (by simp [Parts])
      | cons y ys =>
          rcases h with hlt | ⟨rfl, hrest⟩
          · exact List.cons_lt_cons_iff.2 (.inl hlt)
          · exact List.cons_lt_cons_iff.2 (.inr ⟨rfl, ih hrest⟩)

/-- A character with the smaller number has the smaller octets, and neither form goes on where the
other ends. -/
theorem parts_octetsOf {c d : Char} (h : c < d) : Parts (octetsOf c) (octetsOf d) := by
  have hlt : c.val.toNat < d.val.toNat := h
  have htop : d.val.toNat < 1114112 := by
    have := d.valid
    simp only [UInt32.isValidChar, Nat.isValidChar] at this
    omega
  generalize hv : c.val.toNat = v at hlt
  generalize hw : d.val.toNat = w at hlt htop
  -- the first octet tells how many there are, and more of them belong to a greater number
  simp only [octetsOf, String.utf8EncodeChar, hv, hw]
  split_ifs <;>
    simp (disch := omega) only [List.map_cons, List.map_nil, UInt8.toNat_ofNat', Parts,
      Nat.mod_eq_of_lt] <;> omega

theorem flatMap_octetsOf_lt {cs ds : List Char} (h : cs < ds) :
    cs.flatMap octetsOf < ds.flatMap octetsOf := by
  induction h with
  | @nil d ds =>
      cases hd : octetsOf d with
      | nil => simp [octetsOf, String.utf8EncodeChar_ne_nil] at hd
      | cons x xs => simp only [List.flatMap_nil, List.flatMap_cons, hd, List.cons_append,
          List.nil_lt_cons]
  | @rel c cs d ds hlt =>
      simpa only [List.flatMap_cons] using (parts_octetsOf hlt).append_lt _ _
  | @cons c cs ds _ ih =>
      simpa only [List.flatMap_cons] using List.append_left_lt ih

theorem octets_lt_iff (s t : String) : octets s < octets t ↔ s < t := by
  have hstep : ∀ {a b : String}, a < b → octets a < octets b := fun h =>
    flatMap_octetsOf_lt (String.lt_iff_toList_lt.1 h)
  constructor
  · intro h
    rcases lt_trichotomy s t with hlt | heq | hgt
    · exact hlt
    · exact absurd (heq ▸ h) (lt_irrefl _)
    · exact absurd h (lt_asymm (hstep hgt))
  · exact hstep

theorem octets_inj {s t : String} : octets s = octets t ↔ s = t := by
  refine ⟨fun h => ?_, fun h => h ▸ rfl⟩
  rcases lt_trichotomy s t with hlt | heq | hgt
  · exact absurd h (ne_of_lt ((octets_lt_iff s t).2 hlt))
  · exact heq
  · exact absurd h (ne_of_gt ((octets_lt_iff t s).2 hgt))

theorem isLE_compare_iff (a b : String) :
    (compare a b).isLE = decide (octets a ≤ octets b) := by
  rw [Bool.eq_iff_iff, decide_eq_true_iff, ← not_lt, octets_lt_iff, not_lt]
  show (compareOfLessAndEq a b).isLE = true ↔ a ≤ b
  rw [compareOfLessAndEq]
  split_ifs with hlt heq
  · simp [Ordering.isLE, le_of_lt hlt]
  · simp [Ordering.isLE, heq]
  · simpa [Ordering.isLE] using lt_of_le_of_ne (not_lt.1 hlt) (Ne.symm heq)

theorem compare_eq_lt_iff (a b : String) : compare a b = .lt ↔ octets a < octets b := by
  rw [octets_lt_iff]
  show compareOfLessAndEq a b = .lt ↔ a < b
  rw [compareOfLessAndEq]
  split_ifs with hlt heq
  · exact iff_of_true rfl hlt
  · exact iff_of_false (fun h => nomatch h) hlt
  · exact iff_of_false (fun h => nomatch h) hlt

end Presence.Text
