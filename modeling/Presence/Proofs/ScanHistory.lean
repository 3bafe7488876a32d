import Presence.Fault
import Presence.Proofs.Reading

/-!
# Who has set the mark of a scan

A history holds the calls of scans that run side by side, with their replies. Whether a scan is
inside is read off the replies that it got: it has set its mark and has not taken it away since.
Main statements: if the replies could come as they came, the scan that is inside is the one that has
set the mark last (`ScanHistory.Orderly.isInside_iff`), and a scan is turned away exactly if another
one is inside (`ScanHistory.Orderly.refused_iff`).
-/

set_option autoImplicit false

namespace Presence

open Operation Program

/-- What can go wrong at a call on a backend. -/
inductive Mishap where
  | failure (e : Failure)
  | crash (c : Crash)

/-- What a call comes back with if something goes wrong. -/
def Mishap.outcome {α : Type} : Mishap → Outcome α
  | .failure e => .failed e
  | .crash c => .crashed c

/-- Answers a call, unless something goes wrong at it. A call that is made to no backend goes
right. -/
def Call.answer (c : Call) (mishap : Option Mishap) (m : Memory) : Outcome c.Reply × Memory :=
  match c.site?, mishap with
  | some _, some x => (x.outcome, m)
  | _, _ => Memory.serve c m

/-- A call with what it came back with. -/
structure Answer where
  call : Call
  reply : Outcome call.Reply

namespace Answer

/-- What the call has made of the mark of a scan, if it has changed it. -/
def marks? (job : ScanJob) : Answer → Option Bool
  | ⟨.enter j, .ok true⟩ => if j = job then some true else none
  | ⟨.leave j, .ok _⟩ => if j = job then some false else none
  | _ => none

/-- Of these answers, the latest first, the last one that has changed the mark of a scan has set
it. -/
def haveMarked (job : ScanJob) : List Answer → Bool
  | [] => false
  | a :: earlier => (a.marks? job).getD (haveMarked job earlier)

end Answer

/-- Calls that were answered, each with the number of the scan that made it, the latest first. -/
abbrev ScanHistory := List (Nat × Answer)

namespace ScanHistory

/-- The answers that a scan has got. -/
def answersOf (h : ScanHistory) (i : Nat) : List Answer := (h.filter fun x => x.1 = i).map (·.2)

/-- The scan is past its mark. -/
def isInside (h : ScanHistory) (job : ScanJob) (i : Nat) : Bool :=
  Answer.haveMarked job (h.answersOf i)

/-- The scan that has set the mark, if it is set. -/
def holder (job : ScanJob) : ScanHistory → Option Nat
  | [] => none
  | (i, a) :: h =>
    match a.marks? job with
    | some true => some i
    | some false => none
    | none => holder job h

end ScanHistory

/-! ## Answers -/

section Answers

variable (job : ScanJob) (mishap : Option Mishap) (m : Memory)

theorem answer_enter : (Call.enter job).answer mishap m =
    (.ok !(m.guards job).isRunning, m.withGuard job ⟨true⟩) := by
  cases mishap <;> rfl

theorem answer_leave :
    (Call.leave job).answer mishap m = (.ok (), m.withGuard job ⟨false⟩) := by
  cases mishap <;> rfl

theorem answer_count (c : Counter) (n : Nat) :
    (Call.count c n).answer mishap m = (.ok (), { m with metrics := m.metrics.add c n }) := by
  cases mishap <;> rfl

/-- A call of a scan that is inside changes neither marks nor counts of skipped scans, whether or
not something goes wrong. -/
theorem answer_scanning {c : Call} (h : c.IsScanning) :
    (c.answer mishap m).2.guards = m.guards ∧
      ∀ label, (c.answer mishap m).2.metrics.value (.scansSkipped label) =
        m.metrics.value (.scansSkipped label) := by
  cases h <;> cases mishap <;> exact ⟨rfl, fun _ => rfl⟩

theorem marks?_scanning {a : Answer} (h : a.call.IsScanning) : a.marks? job = none := by
  obtain ⟨c, r⟩ := a
  cases h <;> rfl

theorem marks?_eq_true {a : Answer} : a.marks? job = some true ↔ a = ⟨.enter job, .ok true⟩ := by
  constructor
  · intro h
    unfold Answer.marks? at h
    split at h
    · split at h <;> simp_all
    · split at h <;> simp_all
    · cases h
  · rintro rfl
    exact if_pos rfl

end Answers

/-! ## Histories -/

namespace Answer

variable {job : ScanJob}

/-- The calls of a scan that is inside leave it inside. -/
theorem haveMarked_append {as : List Answer} (h : ∀ a ∈ as, a.call.IsScanning) (bs : List Answer) :
    haveMarked job (as ++ bs) = haveMarked job bs := by
  induction as with
  | nil => rfl
  | cons a rest ih =>
      have hrest := ih fun b hb => h b (List.mem_cons_of_mem a hb)
      simp [haveMarked, marks?_scanning job (h a List.mem_cons_self), hrest]

end Answer

namespace ScanHistory

variable {h : ScanHistory} {i j : Nat} {a : Answer} {job : ScanJob}

theorem answersOf_cons (h : ScanHistory) (i j : Nat) (a : Answer) :
    answersOf ((i, a) :: h) j = if i = j then a :: h.answersOf j else h.answersOf j := by
  unfold answersOf
  by_cases hij : i = j <;> simp [hij]

theorem isInside_cons (h : ScanHistory) (job : ScanJob) (i j : Nat) (a : Answer) :
    isInside ((i, a) :: h) job j =
      if i = j then (a.marks? job).getD (h.isInside job j) else h.isInside job j := by
  unfold isInside
  rw [answersOf_cons]
  split <;> rfl

theorem mem_answersOf : a ∈ h.answersOf i ↔ (i, a) ∈ h := by
  simp [answersOf]

theorem isSome_holder_cons (h : ScanHistory) (job : ScanJob) (i : Nat) (a : Answer) :
    (holder job ((i, a) :: h)).isSome = (a.marks? job).getD (holder job h).isSome := by
  rw [holder]
  cases a.marks? job with
  | none => rfl
  | some b => cases b <;> rfl

/-- An answer can be the next one: a scan sets the mark, before which it was not inside, exactly if
no scan has set it, and only the scan that has set it takes it away. -/
structure Follows (h : ScanHistory) (i : Nat) (a : Answer) : Prop where
  enters : ∀ job b, a = ⟨.enter job, .ok b⟩ →
    h.isInside job i = false ∧ (b = true ↔ h.holder job = none)
  leaves : ∀ job, a.marks? job = some false → h.holder job = some i

/-- Every answer could be the next one when it came. -/
def Orderly : ScanHistory → Prop
  | [] => True
  | (i, a) :: h => Follows h i a ∧ Orderly h

/-- The scan that is inside is the one that has set the mark. -/
theorem Orderly.isInside_iff (ho : h.Orderly) :
    h.isInside job i = true ↔ h.holder job = some i := by
  induction h with
  | nil =>
      constructor
      · intro hi
        cases hi
      · intro hi
        cases hi
  | cons x rest ih =>
      obtain ⟨k, a⟩ := x
      obtain ⟨hf, hrest⟩ := ho
      have ih := ih hrest
      rw [isInside_cons, holder]
      cases hm : a.marks? job with
      | none => simpa using ih
      | some b =>
          cases b with
          | true =>
              -- the mark was not set before
              have hnone := ((hf.enters job true ((marks?_eq_true job).1 hm)).2).1 rfl
              by_cases hk : k = i
              · simp [hk]
              · simp [hk, ih, hnone]
          | false =>
              have hsome := hf.leaves job hm
              by_cases hk : k = i
              · simp [hk]
              · simp [hk, ih, hsome]

theorem Orderly.of_suffix (ho : h.Orderly) {e : ScanHistory} (hs : e <:+ h) : e.Orderly := by
  induction h with
  | nil =>
      rw [List.suffix_nil] at hs
      rw [hs]
      exact True.intro
  | cons x rest ih =>
      rcases List.suffix_cons_iff.1 hs with rfl | hs
      · exact ho
      · exact ih ho.2 hs

/-- A scan is turned away exactly if another one is inside. -/
theorem Orderly.refused_iff (ho : h.Orderly) {b : Bool} {e : ScanHistory}
    (hs : (i, ⟨.enter job, .ok b⟩) :: e <:+ h) :
    b = false ↔ ∃ j, j ≠ i ∧ e.isInside job j = true := by
  obtain ⟨hf, he⟩ := ho.of_suffix hs
  obtain ⟨hout, hb⟩ := hf.enters job b rfl
  constructor
  · rintro rfl
    cases hh : e.holder job with
    | none => exact absurd (hb.2 hh) (by simp)
    | some j =>
        have hj := he.isInside_iff.2 hh
        refine ⟨j, ?_, hj⟩
        rintro rfl
        rw [hout] at hj
        cases hj
  · rintro ⟨j, -, hj⟩
    rw [he.isInside_iff] at hj
    cases b with
    | false => rfl
    | true =>
        rw [hb.1 rfl] at hj
        cases hj

end ScanHistory

end Presence
