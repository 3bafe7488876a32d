import Presence.Memory
import Presence.Scan

/-!
# Operations that only read

An operation all of whose calls are of a kind leaves alone what no call of the kind changes, however
it ends. Main statement: `scan_agree`, a scan changes neither the presence store nor the daily
statistics.
-/

set_option autoImplicit false

namespace Presence

namespace Program

variable {κ : Type} {Reply : κ → Type} {α β : Type} {P Q : κ → Prop}

/-- All calls of a program are of a kind, whatever the calls before them come back with. -/
def Only (P : κ → Prop) : Program Reply α → Prop
  | .done _ => True
  | .call c next => P c ∧ ∀ r, Only P (next r)

theorem only_pure (a : α) : Only P (pure a : Program Reply α) := True.intro

theorem only_ask {c : κ} (h : P c) : Only P (ask c : Program Reply (Reply c)) :=
  ⟨h, fun _ => True.intro⟩

theorem Only.mono (h : ∀ c, P c → Q c) {p : Program Reply α} (hp : Only P p) : Only Q p := by
  induction p with
  | done o => exact True.intro
  | call c next ih => exact ⟨h c hp.1, fun r => ih r (hp.2 r)⟩

theorem Only.settle {p : Program Reply α} {f : Outcome α → Program Reply β} (hp : Only P p)
    (hf : ∀ o, Only P (f o)) : Only P (p.settle f) := by
  induction p with
  | done o => exact hf o
  | call c next ih => exact ⟨hp.1, fun r => ih r (hp.2 r)⟩

theorem Only.bind {p : Program Reply α} {f : α → Program Reply β} (hp : Only P p)
    (hf : ∀ a, Only P (f a)) : Only P (p >>= f) := by
  refine Only.settle hp fun o => ?_
  cases o with
  | ok a => exact hf a
  | failed e => exact True.intro
  | crashed c => exact True.intro

theorem Only.attempt {p : Program Reply α} (hp : Only P p) : Only P p.attempt := by
  refine Only.settle hp fun o => ?_
  cases o <;> exact True.intro

theorem Only.ensuring {p : Program Reply α} {last : Program Reply PUnit} (hp : Only P p)
    (hl : Only P last) : Only P (p.ensuring last) :=
  hp.settle fun _ => hl.settle fun _ => True.intro

end Program

/-- A call that changes neither the presence store nor the daily statistics, and does not count
flushed seconds. -/
def Call.isReading : Call → Bool
  | .store (.getString _) | .store (.getScore _ _) | .store (.rangeByScore _ _ _) => true
  | .store _ => false
  | .ledger (.add _ _ _) => false
  | .count c _ => c ≠ .flushedSeconds
  | _ => true

/-- The calls of a scan while it runs: readings of the presence store, notifications, and counts of
those that were sent. -/
inductive Call.IsScanning : Call → Prop
  | range (set : String) (low : Int) (high : Option Int) :
      IsScanning (.store (.rangeByScore set low high))
  | text (key : String) : IsScanning (.store (.getString key))
  | score (set member : String) : IsScanning (.store (.getScore set member))
  | notify (n : Notification) : IsScanning (.notify n)
  | alerts (level : String) (n : Nat) : IsScanning (.count (.alertsSent level) n)
  | reminders (n : Nat) : IsScanning (.count .sleepReminders n)

theorem Call.IsScanning.isReading {c : Call} (h : c.IsScanning) : c.isReading = true := by
  cases h <;> simp [Call.isReading]

namespace Memory

/-- Two surroundings with the same sessions, statistics, profiles and time. -/
structure Agree (m m' : Memory) : Prop where
  store : m'.store = m.store
  ledger : m'.ledger = m.ledger
  profiles : m'.profiles = m.profiles
  clock : m'.clock = m.clock
  flushed : m'.metrics.flushedSeconds = m.metrics.flushedSeconds

theorem Agree.trans {m m' m'' : Memory} (h : Agree m m') (h' : Agree m' m'') : Agree m m'' :=
  ⟨h'.store.trans h.store, h'.ledger.trans h.ledger, h'.profiles.trans h.profiles,
    h'.clock.trans h.clock, h'.flushed.trans h.flushed⟩

theorem agree_serve {c : Call} (h : c.isReading = true) (m : Memory) :
    Agree m (serve c m).2 := by
  cases c with
  | store c =>
      cases c with
      | getString key => exact ⟨rfl, rfl, rfl, rfl, rfl⟩
      | getScore set member => exact ⟨rfl, rfl, rfl, rfl, rfl⟩
      | rangeByScore set low high => exact ⟨rfl, rfl, rfl, rfl, rfl⟩
      | setString key value ttl => cases h
      | setScore set member value => cases h
      | incrScore set member delta => cases h
      | removeMember set member => cases h
  | ledger c =>
      cases c with
      | add user day seconds => cases h
      | find user day => exact ⟨rfl, rfl, rfl, rfl, rfl⟩
      | range user first last => exact ⟨rfl, rfl, rfl, rfl, rfl⟩
  | count c n =>
      -- only the counter of flushed seconds matters
      refine ⟨rfl, rfl, rfl, rfl, ?_⟩
      cases c with
      | flushedSeconds => cases h
      | eventsProcessed l => rfl
      | eventsFailed l => rfl
      | sessionsFlushed => rfl
      | alertsSent l => rfl
      | sleepReminders => rfl
      | scansSkipped l => rfl
  | profile user => exact ⟨rfl, rfl, rfl, rfl, rfl⟩
  | notify n => exact ⟨rfl, rfl, rfl, rfl, rfl⟩
  | queue c => exact ⟨rfl, rfl, rfl, rfl, rfl⟩
  | now => exact ⟨rfl, rfl, rfl, rfl, rfl⟩
  | enter job => exact ⟨rfl, rfl, rfl, rfl, rfl⟩
  | leave job => exact ⟨rfl, rfl, rfl, rfl, rfl⟩

/-- An operation that only reads leaves everything as it is. -/
theorem agree_run {α : Type} {p : Operation α} (h : p.Only fun c => c.isReading = true)
    (m : Memory) : Agree m (m.run p).2 := by
  unfold run
  induction p generalizing m with
  | done o => exact ⟨rfl, rfl, rfl, rfl, rfl⟩
  | call c next ih => exact (agree_serve h.1 m).trans (ih _ (h.2 _) _)

end Memory

namespace Service

open Operation Program

/-- A program that only reads. -/
def Reads {α : Type} (p : Operation α) : Prop := p.Only fun c => c.isReading = true

theorem only_sumOver {α : Type} {P : Call → Prop} {f : α → Operation Nat}
    (hf : ∀ a, (f a).Only P) (l : List α) : (sumOver f l).Only P := by
  induction l with
  | nil => exact only_pure 0
  | cons x rest ih => exact (hf x).bind fun n => Only.bind ih fun m => only_pure _

theorem only_notifyCounted (n : Notification) {c : Counter}
    (h : ∀ k, Call.IsScanning (.count c k)) : (notifyCounted n c).Only Call.IsScanning := by
  refine Only.bind (Only.attempt (only_ask (.notify n))) fun r => ?_
  cases r with
  | ok _ => exact Only.bind (only_ask (h 1)) fun _ => only_pure _
  | error _ => exact only_pure _

variable (s : Service)

theorem only_knownBuckets : s.knownBuckets.Only Call.IsScanning :=
  Only.bind (only_ask (.range _ _ _)) fun _ => only_pure _

theorem only_alertAll : s.alertAll.Only Call.IsScanning := by
  refine Only.bind s.only_knownBuckets fun buckets => Only.bind True.intro fun bands => ?_
  refine only_sumOver (fun band => only_sumOver (fun bucket => ?_) _) _
  refine Only.bind (only_ask (.range _ _ _)) fun users => only_sumOver (fun u => ?_) _
  exact only_notifyCounted _ (.alerts _)

theorem only_remindAll : s.remindAll.Only Call.IsScanning := by
  refine Only.bind s.only_knownBuckets fun buckets => only_sumOver (fun bucket => ?_) _
  refine Only.bind (only_ask (.range _ _ _)) fun users => only_sumOver (fun u => ?_) _
  refine Only.bind (only_ask (.text _)) fun marker => ?_
  cases marker with
  | none => exact only_pure _
  | some t => exact Only.bind (only_ask (.score _ _)) fun n => only_notifyCounted _ .reminders

theorem reads_knownBuckets : Reads s.knownBuckets :=
  s.only_knownBuckets.mono fun _ h => h.isReading

/-- What a scan does once it has set its mark. -/
def concluding (job : ScanJob) (p : Operation Nat) : Operation ScanReport := do
  let n ← p.ensuring (leave job)
  pure (.completed n)

/-- What a scan does once it was turned away. -/
def turnedAway (job : ScanJob) : Operation ScanReport := do
  count (.scansSkipped job.label) 1
  pure .skipped

/-- A scan tries to set its mark, and makes no other call on marks or on counts of skipped scans
until it has ended. -/
theorem scan_eq (s : Service) (job : ScanJob) :
    ∃ p : Operation Nat, p.Only Call.IsScanning ∧
      s.scan job = (do if ← enter job then concluding job p else turnedAway job) := by
  cases job with
  | alertBand => exact ⟨s.alertAll, s.only_alertAll, rfl⟩
  | sleepReminder => exact ⟨s.remindAll, s.only_remindAll, rfl⟩

theorem reads_scan (job : ScanJob) : Reads (s.scan job) := by
  obtain ⟨p, hp, hscan⟩ := s.scan_eq job
  rw [hscan]
  refine Only.bind (only_ask rfl) fun entered => ?_
  -- another scan is running, or this one runs and leaves the mark however it ends
  cases entered with
  | false => exact Only.bind (only_ask (by simp [Call.isReading])) fun _ => only_pure _
  | true =>
      have hreads : Reads p := hp.mono fun _ h => h.isReading
      exact Only.bind (Only.ensuring hreads (only_ask rfl)) fun _ => only_pure _

/-- A scan changes neither the presence store nor the daily statistics, even if it crashes. -/
theorem scan_agree (job : ScanJob) (m : Memory) : m.Agree (m.run (s.scan job)).2 :=
  Memory.agree_run (s.reads_scan job) m

end Service

end Presence
