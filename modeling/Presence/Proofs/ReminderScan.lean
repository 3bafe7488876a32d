import Presence.Proofs.AlertScan
import Presence.Proofs.SessionMarks

/-!
# A reminder scan

A reminder scan goes through the buckets in use and through the users with accrued time in each, and
reminds those whose session marker can be read. While it runs, others may do anything but write to
the presence store, move the clock or count reminders, and sending a notification may fail. Main
statement: `Service.reminderScan_online`, a scan attempts one reminder for each pair of a bucket and
a user who is online with accrued time in it, in order, whichever of them cannot be sent; after
requests that have ended one after another, each user is reminded once at most, and only if an
activity of the user is no older than the lifetime of markers.
-/

set_option autoImplicit false

namespace Presence

open Operation Program

/-! ## Who is to be reminded -/

namespace Service

variable (s : Service) (m : Memory)

/-- A user is online: there is a session marker, and it has not expired. -/
def IsOnline (user : String) : Prop :=
  ∃ e, s.marker m user = some e ∧ ∀ x, e.expires = some x → m.clock.now ≤ x

/-- One pair comes before another: by bucket, score and name. -/
def RemindedBefore (t : Store) (p q : Int × String) : Prop :=
  p.1 < q.1 ∨ p.1 = q.1 ∧ (s.scoreOf t p < s.scoreOf t q ∨
    s.scoreOf t p = s.scoreOf t q ∧ compare p.2 q.2 = .lt)

/-- These are the pairs of a bucket and a user to be reminded, each once and in order. -/
structure ToRemind (ps : List (Int × String)) : Prop where
  mem_iff : ∀ b u, (b, u) ∈ ps ↔
    s.InUse m.store b ∧ 1 ≤ s.scoreOf m.store (b, u) ∧ s.IsOnline m u
  ordered : ps.Pairwise (s.RemindedBefore m.store)

/-- The reminder for a user and a bucket, with the whole minutes of the score. -/
def reminderOf (t : Store) (p : Int × String) : Notification :=
  (Notification.ofTemplate p.2 .sleepReminder).withParam "onlineMinutes"
    (.int (s.scoreOf t p / 60))

/-- The text of the session marker of a user, if it can be read. -/
def markerText? (user : String) : Option String :=
  m.store.getString m.clock.now (s.keys.sessionMarker user)

/-- The users whom the scan meets in a bucket. -/
def remindedIn (b : Int) : List String :=
  (m.store.rangeByScore (s.keys.accrualSet b) 1 none).filter fun u => (s.markerText? m u).isSome

/-- The pairs that the scan meets. -/
def reminded : List (Int × String) :=
  (s.bucketsIn m.store).flatMap fun b => (s.remindedIn m b).map fun u => (b, u)

variable {s m} {ps : List (Int × String)}

theorem isSome_markerText? {user : String} :
    (s.markerText? m user).isSome ↔ s.IsOnline m user := by
  unfold markerText? IsOnline Store.getString
  rw [Option.isSome_map, show m.store.strings.get? (s.keys.sessionMarker user) = s.marker m user
    from rfl]
  cases s.marker m user with
  | none => simp
  | some e =>
      obtain ⟨value, expires⟩ := e
      cases expires with
      | none => simp [Option.filter, Store.StoredText.isAlive]
      | some x => by_cases h : m.clock.now ≤ x <;> simp [Option.filter, Store.StoredText.isAlive, h]

/-- A score from one on is that of a member. -/
theorem mem_remindedIn {b : Int} {u : String} :
    u ∈ s.remindedIn m b ↔ 1 ≤ s.scoreOf m.store (b, u) ∧ s.IsOnline m u := by
  unfold remindedIn scoreOf
  rw [List.mem_filter, isSome_markerText?, Store.mem_rangeByScore, Store.getScore_eq]
  refine and_congr_left fun _ => ?_
  cases (m.store.members (s.keys.accrualSet b)).get? u with
  | none => simp
  | some x => simp

theorem mem_reminded {b : Int} {u : String} : (b, u) ∈ s.reminded m ↔
    s.InUse m.store b ∧ 1 ≤ s.scoreOf m.store (b, u) ∧ s.IsOnline m u := by
  unfold reminded
  rw [List.mem_flatMap, ← mem_bucketsIn, ← mem_remindedIn]
  constructor
  · rintro ⟨b', hb, hu⟩
    obtain ⟨u', hu', he⟩ := List.mem_map.1 hu
    cases he
    exact ⟨hb, hu'⟩
  · rintro ⟨hb, hu⟩
    exact ⟨b, hb, List.mem_map.2 ⟨u, hu, rfl⟩⟩

theorem reminded_pairwise : (s.reminded m).Pairwise (s.RemindedBefore m.store) := by
  unfold reminded
  rw [List.pairwise_flatMap]
  refine ⟨fun b _ => ?_, (s.bucketsOf_pairwise _).imp fun {b c} hbc p hp q hq => ?_⟩
  · refine List.pairwise_map.2 (List.Pairwise.filter _ ?_)
    exact (m.store.rangeByScore_pairwise _ _ _).imp fun h => .inr ⟨rfl, h⟩
  · -- a lower bucket comes first
    obtain ⟨u, -, rfl⟩ := List.mem_map.1 hp
    obtain ⟨v, -, rfl⟩ := List.mem_map.1 hq
    exact .inl hbc

/-- The scan meets every pair that is to be reminded, each once and in order. -/
theorem toRemind_reminded : s.ToRemind m (s.reminded m) :=
  ⟨fun _ _ => mem_reminded, reminded_pairwise⟩

theorem ToRemind.nodup (h : s.ToRemind m ps) : ps.Nodup := by
  refine h.ordered.imp ?_
  rintro p _ hpp rfl
  rcases hpp with hpp | ⟨-, hpp | ⟨-, hpp⟩⟩
  · omega
  · omega
  · rw [Std.ReflOrd.compare_self] at hpp
    cases hpp

/-- A user whose scores are in order is to be reminded for one bucket at most. -/
theorem ToRemind.countP_user_le {user : String} (h : s.ToRemind m ps) (hp : s.PlacedFor m user) :
    ps.countP (fun p => p.2 = user) ≤ 1 := by
  have hhome : ∀ p ∈ ps, p.2 = user ↔ p = (s.rangeIn user m, user) := by
    rintro ⟨b, u⟩ hmem
    constructor
    · rintro rfl
      have hscore := ((h.mem_iff b u).1 hmem).2.1
      -- a user with a score in a bucket stands there, and nowhere else
      have hb : b = s.rangeIn u m := by
        by_contra hne
        have hzero : s.scoreOf m.store (b, u) = 0 :=
          getScore_eq_zero fun x hx => hne (hp.eq_rangeIn hx)
        omega
      rw [hb]
    · intro e
      rw [e]
  have hcount : ps.countP (fun p => p.2 = user) = ps.count (s.rangeIn user m, user) := by
    refine List.countP_congr fun p hmem => ?_
    simpa using hhome p hmem
  rw [hcount]
  exact List.nodup_iff_count_le_one.1 h.nodup _

/-- The reminder that the scan sends is the one for the bucket and the user. -/
theorem reminderFor_eq {b : Int} {u : String} (h : u ∈ s.remindedIn m b) :
    reminderFor u (s.scoreOf m.store (b, u)) = s.reminderOf m.store (b, u) := by
  unfold reminderFor reminderOf
  -- a score from one on is rounded down either way
  rw [Int.tdiv_eq_ediv_of_nonneg (by have := (mem_remindedIn.1 h).1; omega)]

end Service

/-! ## What the parts of the scan send -/

/-- Surroundings with the same presence store, time and count of reminders. -/
structure Memory.Still (m m' : Memory) : Prop where
  store : m'.store = m.store
  clock : m'.clock = m.clock
  reminders : m'.metrics.value .sleepReminders = m.metrics.value .sleepReminders

namespace Trail

/-- The contract of surroundings in which others leave the presence store, the clock and the count
of reminders alone, and nothing but a notification is refused. -/
def still : Contract Call.Reply Trail where
  allows _ _ := True
  answers c T r T' := ∃ (m : Memory) (refused : Option Failure), T.memory.Still m ∧
    (refused ≠ none → c.IsNotify) ∧ r = (⟨c, m, refused⟩ : Exchange).reply ∧
      T' = T.extend ⟨c, m, refused⟩

/-- The notifications were attempted one after another, each once, and `n` of them were sent, which
were counted. The presence store and the time are those of the surroundings at the beginning. -/
structure Prompted (m : Memory) (ns : List Notification) (T : Trail) (n : Nat) (T' : Trail) :
    Prop where
  store : T'.memory.store = m.store
  clock : T'.memory.clock = m.clock
  attempted : ∃ as, T'.attempts = T.attempts ++ as ∧ as.map (·.1) = ns ∧ n = as.countP (·.2)
  counted : Counts (T.memory.metrics.value .sleepReminders) n
    (T'.memory.metrics.value .sleepReminders)

/-- With this presence store and at this time, an operation attempts these reminders and comes back
with the number of those that were sent. -/
def Prompts (m : Memory) (p : Operation Nat) (ns : List Notification) : Prop :=
  ∀ T : Trail, T.memory.store = m.store → T.memory.clock = m.clock →
    p.Keeps still (fun o T' => ∃ n, o = .ok n ∧ Prompted m ns T n T') T

variable {m : Memory} {p q : Operation Nat} {ns ks : List Notification} {T T' T'' : Trail}
  {n k : Nat}

theorem Prompted.append (h : Prompted m ns T n T') (h' : Prompted m ks T' k T'') :
    Prompted m (ns ++ ks) T (n + k) T'' := by
  obtain ⟨as, ha, rfl, rfl⟩ := h.attempted
  obtain ⟨bs, hb, rfl, rfl⟩ := h'.attempted
  exact ⟨h'.store, h'.clock, ⟨as ++ bs, by simp [hb, ha], by simp, by simp⟩,
    h.counted.trans h'.counted⟩

/-- A call that sends and counts nothing comes before. -/
theorem Prompted.of_still (h : Prompted m ns T' n T'') (ha : T'.attempts = T.attempts)
    (hm : T.memory.Still T'.memory) : Prompted m ns T n T'' := by
  obtain ⟨as, hb, hn, hk⟩ := h.attempted
  exact ⟨h.store, h.clock, ⟨as, ha ▸ hb, hn, hk⟩, hm.reminders ▸ h.counted⟩

theorem prompts_zero : Prompts m (pure 0) [] := fun _ hs hc =>
  ⟨0, rfl, hs, hc, ⟨[], by simp, rfl, rfl⟩, .refl _⟩

/-- What is sent for the items of a list is sent in the order of the list. -/
theorem prompts_sumOver {α : Type} {f : α → Operation Nat} {L : α → List Notification} {xs : List α}
    (h : ∀ x ∈ xs, Prompts m (f x) (L x)) : Prompts m (Service.sumOver f xs) (xs.flatMap L) := by
  induction xs with
  | nil => exact prompts_zero
  | cons x rest ih =>
      have hrest := ih fun y hy => h y (List.mem_cons_of_mem x hy)
      intro T hs hc
      refine keeps_bind.2 ((h x List.mem_cons_self T hs hc).mono ?_)
      rintro _ T' ⟨n, rfl, hfirst⟩
      refine keeps_bind.2 ((hrest T' hfirst.store hfirst.clock).mono ?_)
      rintro _ T'' ⟨k, rfl, hlast⟩
      exact ⟨n + k, rfl, hfirst.append hlast⟩

/-- A reading of the presence store, with what follows it. -/
theorem prompts_bind_read {c : StoreCall} {a : c.Reply} {g : c.Reply → Operation Nat}
    (hread : ∀ m' : Memory, m'.store = m.store → m'.clock = m.clock →
      Memory.serve (.store c) m' = (.ok a, m'))
    (hg : Prompts m (g a) ns) : Prompts m (of (.store c) >>= g) ns := by
  intro T hs hc
  refine keeps_bind.2 ⟨True.intro, ?_⟩
  rintro _ _ ⟨m', refused, hm, hr, rfl, rfl⟩
  obtain rfl : refused = none := by_contra hr
  have hserve := hread m' (hm.store.trans hs) (hm.clock.trans hc)
  have hafter : (T.extend ⟨.store c, m', none⟩).memory = m' := by
    show (⟨.store c, m', none⟩ : Exchange).after = m'
    rw [Exchange.after_of_none, hserve]
  rw [Exchange.reply_of_none, hserve]
  refine (hg (T.extend ⟨.store c, m', none⟩) ?_ ?_).mono ?_
  · rw [hafter, hm.store, hs]
  · rw [hafter, hm.clock, hc]
  · rintro _ T' ⟨n, rfl, h⟩
    refine ⟨n, rfl, h.of_still ?_ (by rw [hafter]; exact hm)⟩
    rw [attempts_extend]
    exact List.append_nil _

/-- Reading the members of a set, with what follows it. -/
theorem prompts_bind_range {set : String} {low : Int} {high : Option Int}
    {g : List String → Operation Nat} (hg : Prompts m (g (m.store.rangeByScore set low high)) ns) :
    Prompts m (of (.store (.rangeByScore set low high)) >>= g) ns := by
  refine prompts_bind_read (c := .rangeByScore set low high) ?_ hg
  intro m' hs _
  show (Outcome.ok (m'.store.rangeByScore set low high), m') = _
  rw [hs]

/-- A reminder is attempted once, and counted if it was sent. -/
theorem prompts_notifyCounted (a : Notification) :
    Prompts m (Service.notifyCounted a .sleepReminders) [a] := by
  intro T hs hc
  refine ⟨True.intro, ?_⟩
  rintro _ _ ⟨m', refused, hm, -, rfl, rfl⟩
  have hstore : m'.store = m.store := hm.store.trans hs
  have hclock : m'.clock = m.clock := hm.clock.trans hc
  cases refused with
  | some e =>
      -- the attempt has failed, and the scan goes on
      refine ⟨0, rfl, hstore, hclock, ⟨[(a, false)], attempts_extend T _, rfl, rfl⟩, ?_⟩
      show Counts _ 0 (m'.metrics.value _)
      rw [hm.reminders]
      exact .refl _
  | none =>
      refine ⟨True.intro, ?_⟩
      rintro _ _ ⟨m'', refused', hm', -, rfl, rfl⟩
      refine ⟨1, rfl, hm'.store.trans hstore, hm'.clock.trans hclock, ⟨[(a, true)], ?_, rfl, rfl⟩,
        ?_⟩
      · rw [attempts_extend, attempts_extend]
        exact List.append_nil _
      · show Counts _ _ ((m''.metrics.add .sleepReminders 1).value _)
        rw [← hm.reminders, ← show m''.metrics.value .sleepReminders = m'.metrics.value _ from
          hm'.reminders]
        exact m''.metrics.counts_add _ 1

end Trail

namespace Service

open Trail

variable {s : Service} {m : Memory} {T : Trail}

/-- A user in a bucket is reminded if online, and passed over otherwise. -/
theorem prompts_remindUser {b : Int} {u : String} :
    Prompts m (s.remindUser (s.keys.accrualSet b) u)
      (if (s.markerText? m u).isSome then [reminderFor u (s.scoreOf m.store (b, u))] else []) := by
  refine prompts_bind_read (c := .getString _) (a := s.markerText? m u) ?_ ?_
  · intro m' hs hc
    show (Outcome.ok (m'.store.getString m'.clock.now _), m') = _
    rw [hs, hc]
    rfl
  · cases s.markerText? m u with
    | none => exact prompts_zero
    | some text =>
        refine prompts_bind_read (c := .getScore _ _) (a := s.scoreOf m.store (b, u)) ?_
          (prompts_notifyCounted _)
        intro m' hs _
        show (Outcome.ok (m'.store.getScore _ _), m') = _
        rw [hs]
        rfl

/-- Going through a list and passing over some of it is going through the others. -/
theorem flatMap_ite_singleton {α β : Type} (P : α → Bool) (f : α → β) (xs : List α) :
    (xs.flatMap fun x => if P x then [f x] else []) = (xs.filter P).map f := by
  induction xs with
  | nil => rfl
  | cons x rest ih =>
      rw [List.flatMap_cons, ih, List.filter_cons]
      cases P x <;> rfl

theorem prompts_remindBucket (b : Int) :
    Prompts m (s.remindBucket b)
      (((s.remindedIn m b).map fun u => (b, u)).map (s.reminderOf m.store)) := by
  have hnames : ((s.remindedIn m b).map fun u => (b, u)).map (s.reminderOf m.store) =
      (m.store.rangeByScore (s.keys.accrualSet b) 1 none).flatMap fun u =>
        if (s.markerText? m u).isSome then [reminderFor u (s.scoreOf m.store (b, u))] else [] := by
    rw [flatMap_ite_singleton, List.map_map]
    exact List.map_congr_left fun u hu => (reminderFor_eq hu).symm
  rw [hnames]
  exact prompts_bind_range (prompts_sumOver fun u _ => prompts_remindUser)

/-- The scan attempts the reminders of all pairs that it meets. -/
theorem prompts_remindAll : Prompts m s.remindAll ((s.reminded m).map (s.reminderOf m.store)) := by
  unfold remindAll knownBuckets reminded
  rw [Program.bind_assoc, List.map_flatMap]
  exact prompts_bind_range (prompts_sumOver fun b _ => prompts_remindBucket b)

/-- The mark of the scan is taken away at its end, and what it has sent is reported. -/
theorem keeps_prompted {p : Operation Nat} {ns : List Notification} (h : Prompts m p ns)
    (hs : T.memory.store = m.store) (hc : T.memory.clock = m.clock) (job : ScanJob) :
    (concluding job p).Keeps still
      (fun o T' => ∃ n, o = .ok (.completed n) ∧ Prompted m ns T n T') T := by
  refine keeps_bind.2 (keeps_settle.2 ((h T hs hc).mono ?_))
  rintro _ T' ⟨n, rfl, hp⟩
  refine ⟨True.intro, ?_⟩
  rintro _ _ ⟨m', refused, hm, -, rfl, rfl⟩
  obtain ⟨as, ha, hn, hk⟩ := hp.attempted
  refine ⟨n, rfl, hm.store.trans hp.store, hm.clock.trans hp.clock, ⟨as, ?_, hn, hk⟩, ?_⟩
  · rw [attempts_extend, ha]
    exact List.append_nil _
  · show Counts _ _ (m'.metrics.value _)
    rw [hm.reminders]
    exact hp.counted

/-- What a reminder scan does, if these are the pairs to be reminded. -/
structure Reminded (s : Service) (m : Memory) (ps : List (Int × String))
    (x : Outcome ScanReport × Trail) : Prop where
  /-- One reminder is attempted for each pair, in their order, and no other notification. -/
  attempted : x.2.attempts.map (·.1) = ps.map (s.reminderOf m.store)
  /-- The report tells the number of those that were sent. -/
  reported : x.1 = .ok (.completed (x.2.attempts.countP (·.2)))
  /-- So does the counter. -/
  counted : Counts (m.metrics.value .sleepReminders) (x.2.attempts.countP (·.2))
    (x.2.memory.metrics.value .sleepReminders)
  store : x.2.memory.store = m.store

section Scan

variable {f : Refusals} {g : Meanwhile}

/-- A scan whose mark can be set meets all pairs that are to be reminded. -/
theorem reminded_scan (s : Service) (hn : f.Within Call.IsNotify)
    (hg : ∀ n (m : Memory), m.Still (g n m))
    (hfree : ((g 0 m).guards .sleepReminder).isRunning = false) :
    s.Reminded m (s.reminded m) ((⟨m, []⟩ : Trail).runAmid g f (s.scan .sleepReminder)) := by
  -- the mark is set by the first call
  let x : Exchange := ⟨.enter .sleepReminder, g 0 m, f 0 (.enter .sleepReminder)⟩
  have henter : serveAmid g f (.enter .sleepReminder) ⟨m, []⟩ = (.ok true, ⟨x.after, [x]⟩) := by
    have hr : x.reply = .ok !((g 0 m).guards .sleepReminder).isRunning := rfl
    rw [hfree] at hr
    exact congrArg (·, _) hr
  have hx : m.Still x.after := ⟨(hg 0 m).store, (hg 0 m).clock, (hg 0 m).reminders⟩
  have hrest : (⟨m, []⟩ : Trail).runAmid g f (s.scan .sleepReminder) =
      (⟨x.after, [x]⟩ : Trail).runAmid g f (concluding .sleepReminder s.remindAll) := by
    show Program.run (serveAmid g f) (of (.enter .sleepReminder) >>= _) _ = _
    rw [Program.run_bind, show Program.run (serveAmid g f) (of (.enter .sleepReminder)) ⟨m, []⟩ = _
      from henter]
    rfl
  have hall : Prompts m s.remindAll ((s.reminded m).map (s.reminderOf m.store)) := prompts_remindAll
  have hkeeps := keeps_prompted (T := ⟨x.after, [x]⟩) hall hx.store hx.clock .sleepReminder
  have hserve : ∀ c T, still.answers c T (serveAmid g f c T).1 (serveAmid g f c T).2 := fun c T =>
    ⟨g T.calls.length T.memory, f T.calls.length c, hg _ _, hn _ c, rfl, rfl⟩
  obtain ⟨n, ho, hp⟩ := hkeeps.run hserve
  have hfrom := hp.of_still (T := ⟨m, []⟩) rfl hx
  obtain ⟨as, ha, hns, hk⟩ := hfrom.attempted
  rw [hrest]
  have has : ((⟨x.after, [x]⟩ : Trail).runAmid g f
      (concluding .sleepReminder s.remindAll)).2.attempts = as := ha
  refine ⟨has ▸ hns, ?_, ?_, hp.store⟩
  · rw [has, ← hk]
    exact ho
  · rw [has, ← hk]
    exact hfrom.counted

variable {ps : List (Int × String)} {x : Outcome ScanReport × Trail} {user : String}

/-- Reminding a user is attempted as often as the user is to be reminded. -/
theorem Reminded.countP_user (h : s.Reminded m ps x) (user : String) :
    x.2.attempts.countP (fun a => a.1.user = user) = ps.countP (fun p => p.2 = user) := by
  have hleft := List.countP_map (p := fun n : Notification => decide (n.user = user)) (f := (·.1))
    (l := x.2.attempts)
  have hright := List.countP_map (p := fun n : Notification => decide (n.user = user))
    (f := s.reminderOf m.store) (l := ps)
  rw [h.attempted] at hleft
  exact hleft.symm.trans hright

/-- A reminder is only ever attempted for a user who is online. -/
theorem Reminded.isOnline (h : s.Reminded m ps x) (hps : s.ToRemind m ps)
    {a : Notification × Bool} (ha : a ∈ x.2.attempts) : s.IsOnline m a.1.user := by
  have hmem : a.1 ∈ ps.map (s.reminderOf m.store) := by
    rw [← h.attempted]
    exact List.mem_map.2 ⟨a, ha, rfl⟩
  obtain ⟨⟨b, u⟩, hp, he⟩ := List.mem_map.1 hmem
  rw [← he]
  exact ((hps.mem_iff b u).1 hp).2.2

end Scan

/-- Two activities, and a heartbeat while the marker of the second one can still be read. -/
def heartbeatSince : List Happening :=
  [.request (.activity "ada"), .clock (Clock.afterNoon 50), .request (.activity "ada"),
    .clock (Clock.afterNoon 100), .request (.heartbeat "ada")]

end Service

end Presence
