import Presence.Proofs.Counting
import Presence.Proofs.Request
import Presence.Proofs.ScanHistory

/-!
# Scans side by side

Any number of scans run side by side, and any of their calls on a backend may fail or crash. Others
may change anything but the marks of the scans and the counts of skipped ones. Main statements:
where a scan can stand and what it does next (`ScanStage`, `Scans.Watched.step`), and
`Scans.play_exclusive`: at every moment at most one scan of each job is inside, exactly then the
mark is set, and a scan is skipped exactly if another one was inside when it came.
-/

set_option autoImplicit false

namespace Presence

open Operation Program Service ScanHistory

/-- A scan at work, with what is left of its program. -/
structure ScanRun where
  job : ScanJob
  rest : Operation ScanReport

/-- The scan has ended, because another one was running. -/
def ScanRun.isSkipped (r : ScanRun) : Bool :=
  match r.rest with
  | .done (.ok .skipped) => true
  | _ => false

/-- Scans side by side in some surroundings. -/
structure Scans where
  memory : Memory
  runs : List ScanRun := []
  history : ScanHistory := []

/-- What can happen next. -/
inductive ScanMove where
  /-- A scan starts. -/
  | start (job : ScanJob)
  /-- A scan makes its next call, at which something may go wrong. -/
  | step (i : Nat) (mishap : Option Mishap)
  /-- Others leave these surroundings, in which marks and counts of skipped scans are as before. -/
  | elsewhere (m : Memory)

namespace Scans

/-- Lets one thing happen. -/
def move (s : Service) (P : Scans) : ScanMove → Scans
  | .start job => { P with runs := P.runs ++ [⟨job, s.scan job⟩] }
  | .step i mishap =>
    match P.runs[i]? with
    | some ⟨job, .call c next⟩ =>
      let (r, m) := c.answer mishap P.memory
      ⟨m, P.runs.set i ⟨job, next r⟩, (i, ⟨c, r⟩) :: P.history⟩
    | _ => P
  | .elsewhere m =>
    { P with
      memory := { m with
        guards := P.memory.guards
        metrics := { m.metrics with scansSkipped := P.memory.metrics.scansSkipped } } }

/-- Lets things happen one after another. -/
def play (s : Service) : List ScanMove → Scans → Scans
  | [], P => P
  | a :: rest, P => play s rest (P.move s a)

end Scans

/-! ## Where a scan stands -/

/-- Where a scan can stand, with the answers that it has got. -/
inductive ScanStage (s : Service) (r : ScanRun) : List Answer → Prop
  | fresh (hr : r.rest = s.scan r.job) : ScanStage s r []
  | refused (hr : r.rest = turnedAway r.job) : ScanStage s r [⟨.enter r.job, .ok false⟩]
  | skipped (hr : r.rest = .done (.ok .skipped)) :
      ScanStage s r [⟨.count (.scansSkipped r.job.label) 1, .ok ()⟩, ⟨.enter r.job, .ok false⟩]
  | inside (p : Operation Nat) (hp : p.Only Call.IsScanning) (hr : r.rest = concluding r.job p)
      (as : List Answer) (ha : ∀ a ∈ as, a.call.IsScanning) :
      ScanStage s r (as ++ [⟨.enter r.job, .ok true⟩])
  | left (o : Outcome ScanReport) (ho : o ≠ .ok .skipped) (hr : r.rest = .done o)
      (as : List Answer) (ha : ∀ a ∈ as, a.call.IsScanning) :
      ScanStage s r (⟨.leave r.job, .ok ()⟩ :: (as ++ [⟨.enter r.job, .ok true⟩]))

namespace ScanStage

variable {s : Service} {r : ScanRun} {own : List Answer} {job : ScanJob}

theorem haveMarked_enter (job j : ScanJob) (b : Bool) :
    Answer.haveMarked job [⟨.enter j, .ok b⟩] = (b && j = job) := by
  cases b with
  | false => rfl
  | true =>
      show (if j = job then some true else none : Option Bool).getD false = _
      by_cases h : j = job <;> simp [h]

/-- A scan is inside with its own mark only, and while it has not ended. -/
theorem of_haveMarked (h : ScanStage s r own) (hm : Answer.haveMarked job own = true) :
    job = r.job ∧ ∀ o, r.rest ≠ .done o := by
  cases h with
  | fresh hr => cases hm
  | refused hr =>
      rw [haveMarked_enter] at hm
      cases hm
  | skipped hr =>
      rw [Answer.haveMarked, haveMarked_enter] at hm
      cases hm
  | inside p hp hr as ha =>
      rw [Answer.haveMarked_append ha, haveMarked_enter, Bool.true_and, decide_eq_true_eq] at hm
      refine ⟨hm.symm, fun o ho => ?_⟩
      rw [hr] at ho
      cases p <;> cases ho
  | left o ho hr as ha =>
      rw [Answer.haveMarked, Answer.haveMarked_append ha, haveMarked_enter] at hm
      by_cases hj : r.job = job <;> simp [Answer.marks?, hj] at hm

/-- A scan that has got no answer has not begun. -/
theorem eq_scan (h : ScanStage s r own) (hown : own = []) : r.rest = s.scan r.job := by
  cases h with
  | fresh hr => exact hr
  | refused hr => cases hown
  | skipped hr => cases hown
  | inside p hp hr as ha => simp at hown
  | left o ho hr as ha => cases hown

/-- A scan that has ended was turned away, or it was inside and has left. -/
theorem of_done (h : ScanStage s r own) {o : Outcome ScanReport} (hr : r.rest = .done o) :
    (o = .ok .skipped ∧
        own = [⟨.count (.scansSkipped r.job.label) 1, .ok ()⟩, ⟨.enter r.job, .ok false⟩]) ∨
      (o ≠ .ok .skipped ∧ ⟨.enter r.job, .ok true⟩ ∈ own ∧
        ∀ a ∈ own, a.call = .enter r.job → a = ⟨.enter r.job, .ok true⟩) := by
  cases h with
  | fresh h =>
      obtain ⟨p, -, hp⟩ := s.scan_eq r.job
      rw [h, hp] at hr
      cases hr
  | refused h =>
      rw [h] at hr
      cases hr
  | skipped h =>
      rw [h] at hr
      cases hr
      exact .inl ⟨rfl, rfl⟩
  | inside p hp h as ha =>
      rw [h] at hr
      cases p <;> cases hr
  | left o' ho h as ha =>
      rw [h] at hr
      cases hr
      refine .inr ⟨ho, by simp, fun a hmem hc => ?_⟩
      simp only [List.mem_cons, List.mem_append, List.not_mem_nil, or_false] at hmem
      rcases hmem with rfl | hmem | rfl
      · cases hc
      · have hs := ha a hmem
        rw [hc] at hs
        cases hs
      · rfl

end ScanStage

/-! ## What every moment keeps -/

namespace Scans

variable {s : Service} {m₀ : Memory} {P : Scans} {i : Nat} {job : ScanJob}

/-- The number of scans of a job that were skipped. -/
def skips (P : Scans) (job : ScanJob) : Nat := P.runs.countP fun r => r.job = job && r.isSkipped

/-- Every scan stands where a scan can stand, the answers could come as they came, and marks and
counts show them. -/
structure Watched (s : Service) (m₀ : Memory) (P : Scans) : Prop where
  stage : ∀ i r, P.runs[i]? = some r → ScanStage s r (P.history.answersOf i)
  known : ∀ x ∈ P.history, x.1 < P.runs.length
  orderly : P.history.Orderly
  marked : ∀ job, (P.memory.guards job).isRunning = (P.history.holder job).isSome
  counted : ∀ job, Counts (m₀.metrics.value (.scansSkipped job.label)) (P.skips job)
    (P.memory.metrics.value (.scansSkipped job.label))

theorem watched_init {m : Memory} (h : ∀ job, (m.guards job).isRunning = false) :
    Watched s m ⟨m, [], []⟩ where
  stage _ _ hr := nomatch hr
  known _ hx := nomatch hx
  orderly := True.intro
  marked := h
  counted _ := .refl _

/-- One scan gets one more answer. -/
theorem Watched.extend (h : Watched s m₀ P) {r r' : ScanRun} {a : Answer} {m : Memory}
    (hr : P.runs[i]? = some r) (hskip : r.isSkipped = false)
    (hs : ScanStage s r' (a :: P.history.answersOf i)) (hf : Follows P.history i a)
    (hm : ∀ job, (m.guards job).isRunning =
      (a.marks? job).getD (P.memory.guards job).isRunning)
    (hc : ∀ job, Counts (P.memory.metrics.value (.scansSkipped job.label))
      (if r'.job = job && r'.isSkipped then 1 else 0)
      (m.metrics.value (.scansSkipped job.label))) :
    Watched s m₀ ⟨m, P.runs.set i r', (i, a) :: P.history⟩ := by
  obtain ⟨hi, hget⟩ := List.getElem?_eq_some_iff.1 hr
  constructor
  · intro j r₁ hj
    rw [answersOf_cons]
    by_cases hij : i = j
    · subst hij
      rw [List.getElem?_set_self hi] at hj
      cases hj
      rw [if_pos rfl]
      exact hs
    · rw [List.getElem?_set_ne hij] at hj
      rw [if_neg hij]
      exact h.stage j r₁ hj
  · intro x hx
    rw [List.length_set]
    rcases List.mem_cons.1 hx with rfl | hx
    · exact hi
    · exact h.known x hx
  · exact ⟨hf, h.orderly⟩
  · intro job
    rw [isSome_holder_cons, ← h.marked]
    exact hm job
  · intro job
    have hcount : skips ⟨m, P.runs.set i r', (i, a) :: P.history⟩ job =
        P.skips job + if r'.job = job && r'.isSkipped then 1 else 0 := by
      unfold skips
      rw [List.countP_set hi, hget, hskip]
      simp
    rw [hcount]
    exact (h.counted job).trans (hc job)

/-- The mark of a job is what the call has made of it, and the other mark is as it was. -/
theorem isRunning_withGuard (m : Memory) (job j : ScanJob) (b : Bool) :
    ((m.withGuard job ⟨b⟩).guards j).isRunning =
      (if job = j then some b else none).getD (m.guards j).isRunning := by
  show (if j = job then (⟨b⟩ : ScanGuard) else m.guards j).isRunning = _
  by_cases hj : job = j
  · simp [hj]
  · simp [hj, Ne.symm hj]

/-- A scan that comes for the first time sets the mark exactly if no scan has set it. -/
theorem Watched.follows_enter (h : Watched s m₀ P) (hown : P.history.answersOf i = []) {b : Bool}
    (hrun : (P.memory.guards job).isRunning = !b) :
    Follows P.history i ⟨.enter job, .ok b⟩ := by
  rw [h.marked] at hrun
  constructor
  · rintro j b' hb
    cases hb
    constructor
    · rw [isInside, hown]
      rfl
    · cases hh : P.history.holder job <;> simp_all
  · rintro j hb
    cases b <;> simp [Answer.marks?] at hb

/-- A scan that is not skipped at the end of its call leaves the counts of skipped scans alone. -/
theorem counts_of_eq {r' : ScanRun} {m : Memory} (hskip : r'.isSkipped = false)
    (hv : ∀ job : ScanJob, m.metrics.value (.scansSkipped job.label) =
      P.memory.metrics.value (.scansSkipped job.label)) (job : ScanJob) :
    Counts (P.memory.metrics.value (.scansSkipped job.label))
      (if r'.job = job && r'.isSkipped then 1 else 0)
      (m.metrics.value (.scansSkipped job.label)) := by
  rw [hskip, Bool.and_false, hv]
  exact .refl _

theorem isSkipped_concluding (job : ScanJob) (p : Operation Nat) :
    ScanRun.isSkipped ⟨job, concluding job p⟩ = false := by
  cases p <;> rfl

section Steps

variable {r : ScanRun} (h : Watched s m₀ P) (hr : P.runs[i]? = some r) (hskip : r.isSkipped = false)

include h hr hskip

/-- A scan that finds the mark set is turned away. -/
theorem Watched.refuse (hown : P.history.answersOf i = [])
    (hrun : (P.memory.guards r.job).isRunning = true) :
    Watched s m₀ ⟨P.memory.withGuard r.job ⟨true⟩, P.runs.set i ⟨r.job, turnedAway r.job⟩,
      (i, ⟨.enter r.job, .ok false⟩) :: P.history⟩ := by
  refine h.extend hr hskip ?_ ?_ ?_ (counts_of_eq rfl fun _ => rfl)
  · rw [hown]
    exact .refused rfl
  · exact h.follows_enter hown hrun
  · intro job
    rw [isRunning_withGuard]
    by_cases hj : r.job = job
    · -- the mark was set before
      rw [if_pos hj, ← hj, hrun]
      rfl
    · rw [if_neg hj]
      rfl

/-- A scan that does not find the mark set sets it. -/
theorem Watched.admit (hown : P.history.answersOf i = [])
    (hrun : (P.memory.guards r.job).isRunning = false) {p : Operation Nat}
    (hp : p.Only Call.IsScanning) :
    Watched s m₀ ⟨P.memory.withGuard r.job ⟨true⟩, P.runs.set i ⟨r.job, concluding r.job p⟩,
      (i, ⟨.enter r.job, .ok true⟩) :: P.history⟩ := by
  refine h.extend hr hskip ?_ ?_ ?_ (counts_of_eq (isSkipped_concluding _ p) fun _ => rfl)
  · rw [hown]
    exact .inside p hp rfl [] (by simp)
  · exact h.follows_enter hown hrun
  · intro job
    exact isRunning_withGuard _ r.job job true

/-- A scan that was turned away is counted and has ended. -/
theorem Watched.countSkipped (hown : P.history.answersOf i = [⟨.enter r.job, .ok false⟩]) :
    Watched s m₀ ⟨{ P.memory with
        metrics := P.memory.metrics.add (.scansSkipped r.job.label) 1 },
      P.runs.set i ⟨r.job, .done (.ok .skipped)⟩,
      (i, ⟨.count (.scansSkipped r.job.label) 1, .ok ()⟩) :: P.history⟩ := by
  refine h.extend hr hskip ?_ ⟨?_, ?_⟩ (fun _ => rfl) ?_
  · rw [hown]
    exact .skipped rfl
  · rintro job b hb
    cases hb
  · rintro job hb
    cases hb
  · intro job
    by_cases hj : r.job = job
    · subst hj
      rw [if_pos (by simp [ScanRun.isSkipped])]
      exact Metrics.counts_add _ _ 1
    · -- the two jobs have two labels
      have hlabel : Counter.scansSkipped job.label ≠ .scansSkipped r.job.label := by
        intro e
        injection e with e
        revert e hj
        cases job <;> cases r.job <;> simp [ScanJob.label]
      rw [if_neg (by simp [hj]), Metrics.value_add_of_ne _ hlabel]
      exact .refl _

section Inside

variable {as : List Answer} (ha : ∀ a ∈ as, a.call.IsScanning)
  (hown : P.history.answersOf i = as ++ [⟨.enter r.job, .ok true⟩])

include ha hown

/-- A scan that is inside makes a call and stays inside. -/
theorem Watched.goOn {c : Call} (hc : c.IsScanning) (mishap : Option Mishap)
    {p : Operation Nat} (hp : p.Only Call.IsScanning) :
    Watched s m₀ ⟨(c.answer mishap P.memory).2, P.runs.set i ⟨r.job, concluding r.job p⟩,
      (i, ⟨c, (c.answer mishap P.memory).1⟩) :: P.history⟩ := by
  obtain ⟨hguards, hvalue⟩ := answer_scanning mishap P.memory hc
  have hmarks (job : ScanJob) :
      Answer.marks? job ⟨c, (c.answer mishap P.memory).1⟩ = none := marks?_scanning job hc
  refine h.extend hr hskip ?_ ⟨?_, ?_⟩ ?_
    (counts_of_eq (isSkipped_concluding _ p) fun job => hvalue _)
  · rw [hown, ← List.cons_append]
    refine .inside p hp rfl _ fun a hmem => ?_
    rcases List.mem_cons.1 hmem with rfl | hmem
    · exact hc
    · exact ha a hmem
  · rintro job b hb
    injection hb with hcall
    rw [hcall] at hc
    cases hc
  · intro job hb
    rw [hmarks] at hb
    cases hb
  · intro job
    rw [hguards, hmarks]
    rfl

/-- A scan that was inside takes its mark away and has ended. -/
theorem Watched.leave {o : Outcome ScanReport} (ho : o ≠ .ok .skipped) :
    Watched s m₀ ⟨P.memory.withGuard r.job ⟨false⟩, P.runs.set i ⟨r.job, .done o⟩,
      (i, ⟨.leave r.job, .ok ()⟩) :: P.history⟩ := by
  have hin : P.history.isInside r.job i = true := by
    rw [isInside, hown, Answer.haveMarked_append ha, ScanStage.haveMarked_enter]
    simp
  have hnot : ScanRun.isSkipped ⟨r.job, .done o⟩ = false := by
    unfold ScanRun.isSkipped
    split
    · rename_i e
      cases e
      exact absurd rfl ho
    · rfl
  refine h.extend hr hskip ?_ ⟨?_, ?_⟩ ?_ (counts_of_eq hnot fun _ => rfl)
  · rw [hown]
    exact .left o ho rfl as ha
  · rintro job b hb
    cases hb
  · intro job hb
    by_cases hj : r.job = job
    · rw [← hj]
      exact h.orderly.isInside_iff.1 hin
    · simp [Answer.marks?, hj] at hb
  · intro job
    exact isRunning_withGuard _ r.job job false

end Inside

end Steps

theorem move_step_of_call {c : Call} {next : Outcome c.Reply → Operation ScanReport}
    (hr : P.runs[i]? = some ⟨job, .call c next⟩) (mishap : Option Mishap) :
    P.move s (.step i mishap) = ⟨(c.answer mishap P.memory).2,
      P.runs.set i ⟨job, next (c.answer mishap P.memory).1⟩,
      (i, ⟨c, (c.answer mishap P.memory).1⟩) :: P.history⟩ := by
  simp only [move, hr]

/-- What a scan does next keeps everything as it should be. -/
theorem Watched.step (h : Watched s m₀ P) {c : Call} {next : Outcome c.Reply → Operation ScanReport}
    (hr : P.runs[i]? = some ⟨job, .call c next⟩) (mishap : Option Mishap) :
    Watched s m₀ (P.move s (.step i mishap)) := by
  rw [move_step_of_call hr]
  have hst := h.stage i _ hr
  generalize hown : P.history.answersOf i = own at hst
  cases hst with
  | fresh hrest =>
      obtain ⟨p, hp, hscan⟩ := s.scan_eq job
      cases hrest.trans hscan
      rw [answer_enter]
      cases hb : (P.memory.guards job).isRunning with
      | true => exact h.refuse hr rfl hown hb
      | false => exact h.admit hr rfl hown hb hp
  | refused hrest =>
      have hturned : Program.call c next = turnedAway job := hrest
      cases hturned
      rw [answer_count]
      exact h.countSkipped hr rfl hown
  | skipped hrest => cases hrest
  | inside p hp hrest as ha =>
      have hinside : Program.call c next = concluding job p := hrest
      cases p with
      | call c' next' =>
          cases hinside
          exact h.goOn hr rfl ha hown hp.1 mishap (hp.2 _)
      | done o =>
          cases hinside
          rw [answer_leave]
          cases o with
          | ok n => exact h.leave hr rfl ha hown (fun e => nomatch e)
          | failed e => exact h.leave hr rfl ha hown (fun e => nomatch e)
          | crashed e => exact h.leave hr rfl ha hown (fun e => nomatch e)
  | left o ho hrest as ha => cases hrest

theorem Watched.start (h : Watched s m₀ P) (job : ScanJob) :
    Watched s m₀ (P.move s (.start job)) := by
  constructor
  · intro i r hr
    have hr : (P.runs ++ [⟨job, s.scan job⟩])[i]? = some r := hr
    rcases Nat.lt_trichotomy i P.runs.length with hi | rfl | hi
    · rw [List.getElem?_append_left hi] at hr
      exact h.stage i r hr
    · -- a scan that has just started has got no answer
      have hown : P.history.answersOf P.runs.length = [] := by
        refine List.eq_nil_iff_forall_not_mem.2 fun a ha => ?_
        exact Nat.lt_irrefl _ (h.known _ (mem_answersOf.1 ha))
      rw [List.getElem?_concat_length] at hr
      cases hr
      show ScanStage s _ (P.history.answersOf P.runs.length)
      rw [hown]
      exact .fresh rfl
    · rw [List.getElem?_eq_none (by simp; omega)] at hr
      cases hr
  · intro x hx
    have := h.known x hx
    simp only [move, List.length_append]
    omega
  · exact h.orderly
  · exact h.marked
  · intro j
    have hskips : (P.move s (.start job)).skips j = P.skips j := by
      have hfresh : ScanRun.isSkipped ⟨job, s.scan job⟩ = false := by cases job <;> rfl
      simp [skips, move, hfresh]
    rw [hskips]
    exact h.counted j

/-- Whatever happens keeps everything as it should be. -/
theorem Watched.move (h : Watched s m₀ P) (a : ScanMove) : Watched s m₀ (P.move s a) := by
  cases a with
  | start job => exact h.start job
  | elsewhere m => exact ⟨h.stage, h.known, h.orderly, h.marked, h.counted⟩
  | step i mishap =>
      cases hr : P.runs[i]? with
      | none =>
          have hmove : P.move s (.step i mishap) = P := by simp only [Scans.move, hr]
          rw [hmove]
          exact h
      | some r =>
          obtain ⟨job, p⟩ := r
          cases p with
          | call c next => exact h.step hr mishap
          | done o =>
              have hmove : P.move s (.step i mishap) = P := by simp only [Scans.move, hr]
              rw [hmove]
              exact h

theorem Watched.play (h : Watched s m₀ P) (as : List ScanMove) :
    Watched s m₀ (P.play s as) := by
  induction as generalizing P with
  | nil => exact h
  | cons a rest ih => exact ih (h.move a)

/-! ## From one moment to a later one -/

theorem history_move (s : Service) (P : Scans) (a : ScanMove) :
    P.history <:+ (P.move s a).history := by
  cases a with
  | start job => exact List.suffix_refl _
  | elsewhere m => exact List.suffix_refl _
  | step i mishap =>
      unfold Scans.move
      dsimp only
      split
      · exact List.suffix_cons _ _
      · exact List.suffix_refl _

theorem history_play (s : Service) (P : Scans) (as : List ScanMove) :
    P.history <:+ (P.play s as).history := by
  induction as generalizing P with
  | nil => exact List.suffix_refl _
  | cons a rest ih => exact (history_move s P a).trans (ih (P.move s a))

/-- The steps of a scan give no answers to another one. -/
theorem answersOf_steps {j : Nat} (hij : i ≠ j) (mishaps : List (Option Mishap)) (P : Scans) :
    (P.play s (mishaps.map (.step i))).history.answersOf j = P.history.answersOf j := by
  induction mishaps generalizing P with
  | nil => rfl
  | cons mishap rest ih =>
      refine (ih _).trans ?_
      unfold Scans.move
      dsimp only
      split
      · rw [answersOf_cons, if_neg hij]
      · rfl

/-- A scan that makes its calls one after another comes to its end. -/
theorem exists_done {p : Operation ScanReport} (mishap : Nat → Option Mishap)
    (hr : P.runs[i]? = some ⟨job, p⟩) :
    ∃ n o, (P.play s (((List.range n).map mishap).map (.step i))).runs[i]? =
      some ⟨job, .done o⟩ := by
  induction p generalizing P mishap with
  | done o => exact ⟨0, o, hr⟩
  | call c next ih =>
      have hnext : (P.move s (.step i (mishap 0))).runs[i]? =
          some ⟨job, next (c.answer (mishap 0) P.memory).1⟩ := by
        rw [move_step_of_call hr]
        exact List.getElem?_set_self (List.getElem?_eq_some_iff.1 hr).1
      obtain ⟨n, o, hn⟩ := ih _ (fun k => mishap (k + 1)) hnext
      refine ⟨n + 1, o, ?_⟩
      rw [List.range_succ_eq_map, List.map_cons, List.map_map]
      exact hn

theorem Watched.isInside_run (h : Watched s m₀ P) (hi : P.history.isInside job i = true) :
    ∃ p, P.runs[i]? = some ⟨job, p⟩ ∧ ∀ o, p ≠ .done o := by
  -- a scan that has got answers has started
  have hlt : i < P.runs.length := by
    cases hown : P.history.answersOf i with
    | nil =>
        rw [isInside, hown] at hi
        cases hi
    | cons a rest =>
        have ha : a ∈ P.history.answersOf i := by rw [hown]; exact List.mem_cons_self
        exact h.known _ (mem_answersOf.1 ha)
  obtain ⟨hjob, hdone⟩ := (h.stage i _ (List.getElem?_eq_getElem hlt)).of_haveMarked hi
  refine ⟨P.runs[i].rest, ?_, hdone⟩
  rw [List.getElem?_eq_getElem hlt, hjob]

theorem Watched.not_isRunning (h : Watched s m₀ P)
    (hnone : ∀ j, P.history.isInside job j = false) :
    (P.memory.guards job).isRunning = false := by
  rw [h.marked]
  cases hh : P.history.holder job with
  | none => rfl
  | some j =>
      have hj := h.orderly.isInside_iff.2 hh
      rw [hnone] at hj
      cases hj

/-- How scans that run side by side have kept out of each other's way. -/
structure Exclusive (s : Service) (m₀ : Memory) (P : Scans) : Prop where
  /-- At most one scan of each job is inside. -/
  unique : ∀ job i j, P.history.isInside job i = true → P.history.isInside job j = true → i = j
  /-- The mark of a job is set exactly while a scan of this job is inside. -/
  running_iff : ∀ job, (P.memory.guards job).isRunning = true ↔
    ∃ i p, P.runs[i]? = some ⟨job, p⟩ ∧ P.history.isInside job i = true
  /-- A scan that has ended, with a report, a failure or a crash, is not inside. -/
  ended : ∀ i job o, P.runs[i]? = some ⟨job, .done o⟩ → P.history.isInside job i = false
  /-- A scan was skipped exactly if another one was inside when it tried to set the mark. -/
  skipped_iff : ∀ i job o, P.runs[i]? = some ⟨job, .done o⟩ → (o = .ok .skipped ↔
    ∃ (a : Answer) (earlier : ScanHistory) (j : Nat), (i, a) :: earlier <:+ P.history ∧
      a.call = .enter job ∧ j ≠ i ∧ earlier.isInside job j = true)
  /-- A scan that was skipped has sent nothing. -/
  silent : ∀ i job, P.runs[i]? = some ⟨job, .done (.ok .skipped)⟩ →
    ∀ a, (i, a) ∈ P.history → ∀ n, a.call ≠ .notify n
  /-- The counter of a job shows how many of its scans were skipped. -/
  counted : ∀ job, Counts (m₀.metrics.value (.scansSkipped job.label)) (P.skips job)
    (P.memory.metrics.value (.scansSkipped job.label))
  /-- While no scan of a job is inside, the next one that tries is not skipped. -/
  next : ∀ job, (∀ j, P.history.isInside job j = false) →
    ∀ i p, P.runs[i]? = some ⟨job, p⟩ → P.history.answersOf i = [] → ∀ mishap as o,
      ((P.move s (.step i mishap)).play s as).runs[i]? = some ⟨job, .done o⟩ → o ≠ .ok .skipped
  /-- A scan that is inside comes to its end in finitely many calls, whatever goes wrong at them,
  and the mark is gone then. -/
  leaves : ∀ job i, P.history.isInside job i = true → ∀ mishap : Nat → Option Mishap,
    ∃ n o, let Q := P.play s (((List.range n).map mishap).map (.step i))
      Q.runs[i]? = some ⟨job, .done o⟩ ∧ (Q.memory.guards job).isRunning = false

theorem Watched.skipped_iff (h : Watched s m₀ P) {o : Outcome ScanReport}
    (hr : P.runs[i]? = some ⟨job, .done o⟩) : o = .ok .skipped ↔
      ∃ (a : Answer) (earlier : ScanHistory) (j : Nat), (i, a) :: earlier <:+ P.history ∧
        a.call = .enter job ∧ j ≠ i ∧ earlier.isInside job j = true := by
  rcases (h.stage i _ hr).of_done rfl with ⟨ho, hown⟩ | ⟨ho, -, hown⟩
  · refine iff_of_true ho ?_
    have hmem : (i, ⟨.enter job, .ok false⟩) ∈ P.history := by
      rw [← mem_answersOf, hown]
      simp
    obtain ⟨later, earlier, he⟩ := List.append_of_mem hmem
    have hsuffix : (i, ⟨.enter job, .ok false⟩) :: earlier <:+ P.history := ⟨later, he.symm⟩
    obtain ⟨j, hj, hin⟩ := (h.orderly.refused_iff hsuffix).1 rfl
    exact ⟨_, earlier, j, hsuffix, rfl, hj, hin⟩
  · refine iff_of_false ho ?_
    rintro ⟨a, earlier, j, hsuffix, hcall, hj, hin⟩
    have hmem : a ∈ P.history.answersOf i :=
      mem_answersOf.2 (hsuffix.subset List.mem_cons_self)
    -- the scan has set the mark, so no other one was inside
    rw [hown a hmem hcall] at hsuffix
    exact absurd ((h.orderly.refused_iff hsuffix).2 ⟨j, hj, hin⟩) (by simp)

theorem Watched.next (h : Watched s m₀ P) (hnone : ∀ j, P.history.isInside job j = false)
    {p : Operation ScanReport} (hr : P.runs[i]? = some ⟨job, p⟩)
    (hown : P.history.answersOf i = []) (mishap : Option Mishap) (as : List ScanMove)
    {o : Outcome ScanReport}
    (hend : ((P.move s (.step i mishap)).play s as).runs[i]? = some ⟨job, .done o⟩) :
    o ≠ .ok .skipped := by
  obtain ⟨q, -, hscan⟩ := s.scan_eq job
  have hp : p = s.scan job := (h.stage i _ hr).eq_scan hown
  rw [hp, hscan] at hr
  have hmem : (i, ⟨.enter job, .ok true⟩) ∈ (P.move s (.step i mishap)).history := by
    rw [move_step_of_call hr, answer_enter, h.not_isRunning hnone]
    exact List.mem_cons_self
  have hmem := mem_answersOf.2 ((history_play s _ as).subset hmem)
  rcases (((h.move _).play as).stage i _ hend).of_done rfl with ⟨-, hrefused⟩ | ⟨ho, -⟩
  · rw [hrefused] at hmem
    simp at hmem
  · exact ho

theorem Watched.leaves (h : Watched s m₀ P) (hin : P.history.isInside job i = true)
    (mishap : Nat → Option Mishap) :
    ∃ n o, let Q := P.play s (((List.range n).map mishap).map (.step i))
      Q.runs[i]? = some ⟨job, .done o⟩ ∧ (Q.memory.guards job).isRunning = false := by
  obtain ⟨p, hr, -⟩ := h.isInside_run hin
  obtain ⟨n, o, hend⟩ := exists_done (s := s) mishap hr
  have hQ := h.play (((List.range n).map mishap).map (.step i))
  refine ⟨n, o, hend, hQ.not_isRunning fun j => Bool.eq_false_iff.2 fun hj => ?_⟩
  by_cases hij : i = j
  · subst hij
    obtain ⟨q, hq, hdone⟩ := hQ.isInside_run hj
    rw [hend] at hq
    cases hq
    exact hdone o rfl
  · -- another scan has not become inside meanwhile
    rw [isInside, answersOf_steps hij] at hj
    have hi := h.orderly.isInside_iff.1 hin
    rw [h.orderly.isInside_iff.1 hj] at hi
    exact hij (Option.some.inj hi).symm

/-- Scans that run side by side keep out of each other's way, whatever goes wrong at their calls and
whatever others do meanwhile. -/
theorem play_exclusive (s : Service) {m : Memory} (h : ∀ job, (m.guards job).isRunning = false)
    (as : List ScanMove) : Exclusive s m (play s as ⟨m, [], []⟩) := by
  have hP : Watched s m (play s as ⟨m, [], []⟩) := (watched_init h).play as
  generalize play s as ⟨m, [], []⟩ = P at hP
  constructor
  · intro job i j hi hj
    have he := hP.orderly.isInside_iff.1 hi
    rw [hP.orderly.isInside_iff.1 hj] at he
    exact (Option.some.inj he).symm
  · intro job
    constructor
    · intro hrun
      rw [hP.marked] at hrun
      obtain ⟨i, hi⟩ := Option.isSome_iff_exists.1 hrun
      have hin := hP.orderly.isInside_iff.2 hi
      obtain ⟨p, hr, -⟩ := hP.isInside_run hin
      exact ⟨i, p, hr, hin⟩
    · rintro ⟨i, p, -, hin⟩
      rw [hP.marked, hP.orderly.isInside_iff.1 hin]
      rfl
  · intro i job o hr
    refine Bool.eq_false_iff.2 fun hin => ?_
    obtain ⟨p, hp, hdone⟩ := hP.isInside_run hin
    rw [hr] at hp
    cases hp
    exact hdone o rfl
  · exact fun i job o hr => hP.skipped_iff hr
  · intro i job hr a ha n hn
    rw [← mem_answersOf] at ha
    rcases (hP.stage i _ hr).of_done rfl with ⟨-, hown⟩ | ⟨ho, -⟩
    · rw [hown] at ha
      simp only [List.mem_cons, List.not_mem_nil, or_false] at ha
      rcases ha with rfl | rfl
      · cases hn
      · cases hn
    · exact ho rfl
  · exact hP.counted
  · exact fun job hnone i p hr hown mishap as o hend => hP.next hnone hr hown mishap as hend
  · exact fun job i hin mishap => hP.leaves hin mishap

/-- Two alert scans and a reminder scan start. One alert scan is turned away by the other, which
then crashes at its first reading. A third alert scan starts. -/
def crashedScan : List ScanMove :=
  [.start .alertBand, .start .alertBand, .start .sleepReminder, .step 0 none, .step 1 none,
    .step 2 none, .step 1 none, .step 0 (some (.crash .span)), .step 0 none, .start .alertBand,
    .step 3 none]

/-- The third alert scan is inside, as the first one has left after its crash. -/
theorem play_exclusive_crashedScan :
    let P := play Service.standard crashedScan ⟨Memory.fresh Clock.noon, [], []⟩
    Exclusive Service.standard (Memory.fresh Clock.noon) P ∧
      P.runs.map ScanRun.isSkipped = [false, true, false, false] ∧
      P.history.isInside .alertBand 0 = false ∧ P.history.isInside .alertBand 3 = true ∧
      P.history.isInside .sleepReminder 2 = true ∧
      P.memory.metrics.value (.scansSkipped "alert_band") = 1 :=
  ⟨play_exclusive Service.standard (fun _ => rfl) crashedScan, by decide +kernel, by decide +kernel,
    by decide +kernel, by decide +kernel, by decide +kernel⟩

end Scans

end Presence
