import Presence.Proofs.AlertTargets
import Presence.Proofs.Counting
import Presence.Proofs.Refusals

/-!
# An alert scan

A trail tells which notifications were attempted, and which of them were sent. While the scan runs,
others may do anything but write to the presence store or count alerts, and sending a notification
may fail. Main statement: `Service.alertScan_targeted`, a scan attempts one alert for each pair of a
bucket and a user to be alerted, in order, whichever of them cannot be sent, and reports and counts
those that were. It is assembled from what every part of the scan sends (`Trail.Sends`).
-/

set_option autoImplicit false

namespace Presence

open Operation Program

/-- The call sends a notification. -/
def Call.IsNotify : Call → Prop
  | .notify _ => True
  | _ => False

/-- The notification that a call was to send, and whether it was sent. -/
def Exchange.attempt? (x : Exchange) : Option (Notification × Bool) :=
  match x.call with
  | .notify n => some (n, x.reply.isOk)
  | _ => none

/-- Surroundings with the same presence store and the same counts of alerts. -/
structure Memory.Unmoved (m m' : Memory) : Prop where
  store : m'.store = m.store
  alerts : ∀ label, m'.metrics.value (.alertsSent label) = m.metrics.value (.alertsSent label)

/-- What others do to the surroundings before a call, by the number of the call. -/
abbrev Meanwhile := Nat → Memory → Memory

/-- The attempts that have sent the alert of a level. -/
def sentAt (level : Nat) (as : List (Notification × Bool)) : Nat :=
  as.countP fun a => a.2 && a.1.template = .onlineTimeAlert level

namespace Trail

/-- The notifications that were to be sent, in order, and whether they were. -/
def attempts (T : Trail) : List (Notification × Bool) := T.calls.reverse.filterMap Exchange.attempt?

/-- Answers a call, or refuses it, after what others do. -/
def serveAmid (g : Meanwhile) (f : Refusals) (c : Call) (T : Trail) : Outcome c.Reply × Trail :=
  serve f c { T with memory := g T.calls.length T.memory }

/-- Runs an operation to its end, while others do something before each of its calls. -/
def runAmid {α : Type} (g : Meanwhile) (f : Refusals) (p : Operation α) (T : Trail) :
    Outcome α × Trail :=
  Program.run (serveAmid g f) p T

theorem attempts_extend (T : Trail) (x : Exchange) :
    (T.extend x).attempts = T.attempts ++ x.attempt?.toList := by
  unfold attempts extend
  rw [List.reverse_cons, List.filterMap_append]
  rfl

/-- The contract of surroundings in which others leave the presence store and the counts of alerts
alone, and nothing but a notification is refused. -/
def amid : Contract Call.Reply Trail where
  allows _ _ := True
  answers c T r T' := ∃ (m : Memory) (refused : Option Failure), T.memory.Unmoved m ∧
    (refused ≠ none → c.IsNotify) ∧ r = (⟨c, m, refused⟩ : Exchange).reply ∧
      T' = T.extend ⟨c, m, refused⟩

/-- The notifications were attempted one after another, each once, and `n` of them were sent. Each
of these was counted at its level, and the presence store is as it was. -/
structure Sent (t : Store) (ns : List Notification) (T : Trail) (n : Nat) (T' : Trail) : Prop where
  store : T'.memory.store = t
  attempted : ∃ as, T'.attempts = T.attempts ++ as ∧ as.map (·.1) = ns ∧ n = as.countP (·.2) ∧
    ∀ level : Nat, Counts (T.memory.metrics.value (.alertsSent (toString level))) (sentAt level as)
      (T'.memory.metrics.value (.alertsSent (toString level)))

/-- With this presence store, an operation attempts these notifications and comes back with the
number of those that were sent. -/
def Sends (t : Store) (p : Operation Nat) (ns : List Notification) : Prop :=
  ∀ T : Trail, T.memory.store = t →
    p.Keeps amid (fun o T' => ∃ n, o = .ok n ∧ Sent t ns T n T') T

variable {t : Store} {p q : Operation Nat} {ns ms : List Notification} {T T' T'' : Trail}
  {n k : Nat}

theorem Sent.refl (h : T.memory.store = t) : Sent t [] T 0 T :=
  ⟨h, [], by simp, rfl, rfl, fun _ => .refl _⟩

theorem Sent.append (h : Sent t ns T n T') (h' : Sent t ms T' k T'') :
    Sent t (ns ++ ms) T (n + k) T'' := by
  obtain ⟨as, ha, rfl, rfl, hc⟩ := h.attempted
  obtain ⟨bs, hb, rfl, rfl, hd⟩ := h'.attempted
  refine ⟨h'.store, as ++ bs, by simp [hb, ha], by simp, by simp, fun level => ?_⟩
  have hsum : sentAt level (as ++ bs) = sentAt level as + sentAt level bs := List.countP_append
  rw [hsum]
  exact (hc level).trans (hd level)

/-- A call that sends nothing and leaves store and counts alone comes before. -/
theorem Sent.of_unmoved (h : Sent t ns T' n T'') (ha : T'.attempts = T.attempts)
    (hm : T.memory.Unmoved T'.memory) : Sent t ns T n T'' := by
  obtain ⟨as, hb, hn, hk, hc⟩ := h.attempted
  refine ⟨h.store, as, ha ▸ hb, hn, hk, fun level => ?_⟩
  rw [← hm.alerts]
  exact hc level

/-! ## What the parts of a scan send -/

theorem sends_zero : Sends t (pure 0) [] := fun _ hT => ⟨0, rfl, .refl hT⟩

theorem Sends.add (hp : Sends t p ns) (hq : Sends t q ms) :
    Sends t (do
      let n ← p
      let m ← q
      pure (n + m)) (ns ++ ms) := by
  intro T hT
  refine keeps_bind.2 ((hp T hT).mono ?_)
  rintro _ T' ⟨n, rfl, h⟩
  refine keeps_bind.2 ((hq T' h.store).mono ?_)
  rintro _ T'' ⟨k, rfl, h'⟩
  exact ⟨n + k, rfl, h.append h'⟩

/-- What is sent for the items of a list is sent in the order of the list. -/
theorem sends_sumOver {α : Type} {f : α → Operation Nat} {L : α → List Notification} {xs : List α}
    (h : ∀ x ∈ xs, Sends t (f x) (L x)) : Sends t (Service.sumOver f xs) (xs.flatMap L) := by
  induction xs with
  | nil => exact sends_zero
  | cons x rest ih =>
      exact (h x List.mem_cons_self).add (ih fun y hy => h y (List.mem_cons_of_mem x hy))

/-- A reading of the presence store, with what follows it. -/
theorem sends_bind_read {c : StoreCall} {a : c.Reply} {g : c.Reply → Operation Nat}
    (hc : ∀ m : Memory, m.store = t → Memory.serve (.store c) m = (.ok a, m))
    (hg : Sends t (g a) ns) : Sends t (of (.store c) >>= g) ns := by
  intro T hT
  refine keeps_bind.2 ⟨True.intro, ?_⟩
  rintro _ _ ⟨m, refused, hm, hr, rfl, rfl⟩
  obtain rfl : refused = none := by_contra hr
  have hs := hc m (hm.store.trans hT)
  have hafter : (T.extend ⟨.store c, m, none⟩).memory = m := by
    show (⟨.store c, m, none⟩ : Exchange).after = m
    rw [Exchange.after_of_none, hs]
  rw [Exchange.reply_of_none, hs]
  refine (hg (T.extend ⟨.store c, m, none⟩) ?_).mono ?_
  · rw [hafter, hm.store, hT]
  · rintro _ T' ⟨n, rfl, h⟩
    refine ⟨n, rfl, h.of_unmoved ?_ (by rw [hafter]; exact hm)⟩
    rw [attempts_extend]
    exact List.append_nil _

/-- An alert is attempted once, and counted if it was sent. -/
theorem sends_notifyCounted {a : Notification} {level : Nat}
    (ha : a.template = .onlineTimeAlert level) :
    Sends t (Service.notifyCounted a (.alertsSent (toString level))) [a] := by
  intro T hT
  refine ⟨True.intro, ?_⟩
  rintro _ _ ⟨m, refused, hm, -, rfl, rfl⟩
  have hstore : m.store = t := hm.store.trans hT
  cases refused with
  | some e =>
      -- the attempt has failed, and the scan goes on
      refine ⟨0, rfl, hstore, [(a, false)], attempts_extend T _, rfl, rfl, fun l => ?_⟩
      rw [show sentAt l [(a, false)] = 0 from rfl]
      show Counts _ 0 (m.metrics.value _)
      rw [hm.alerts]
      exact .refl _
  | none =>
      refine ⟨True.intro, ?_⟩
      rintro _ _ ⟨m', refused', hm', -, rfl, rfl⟩
      refine ⟨1, rfl, hm'.store.trans hstore, [(a, true)], ?_, rfl, rfl, fun l => ?_⟩
      · rw [attempts_extend, attempts_extend]
        exact List.append_nil _
      · show Counts _ _ ((m'.metrics.add (.alertsSent (toString level)) 1).value _)
        have hv : m'.metrics.value (.alertsSent (toString l)) =
            T.memory.metrics.value (.alertsSent (toString l)) :=
          (hm'.alerts _).trans (hm.alerts _)
        rw [← hv]
        by_cases hl : l = level
        · subst hl
          have hone : sentAt l [(a, true)] = 1 := by simp [sentAt, ha]
          rw [hone]
          exact m'.metrics.counts_add _ 1
        · -- the label of another level is another one
          have hnone : sentAt l [(a, true)] = 0 := by
            simp [sentAt, ha, Ne.symm hl]
          have hlabel : Counter.alertsSent (toString l) ≠ .alertsSent (toString level) := by
            intro e
            have he : toString (l : Int) = toString (level : Int) := Counter.alertsSent.inj e
            exact hl (Int.ofNat.inj (Text.toString_inj.1 he))
          rw [hnone, Metrics.value_add_of_ne _ hlabel]
          exact .refl _

end Trail

namespace Service

open Trail

variable {s : Service} {t : Store} {T : Trail}

section Parts

variable (h1 : 1 ≤ s.alerts.minutes)

include h1

theorem sends_alertBucket {level : Nat} (hl : 1 ≤ level) (b : Int) :
    let band := AlertBand.spanning s.alerts.step level
    Sends t (s.alertBucket band b)
      (((s.usersIn t band b).map fun u => (b, u)).map (s.alertOf t)) := by
  intro band
  have husers : Sends t
      (sumOver (fun u => notifyCounted (s.alertFor u band) (.alertsSent (toString level)))
        (s.usersIn t band b))
      ((s.usersIn t band b).flatMap fun u => [s.alertOf t (b, u)]) := by
    refine sends_sumOver fun u hu => ?_
    rw [← alertFor_eq h1 hl hu]
    exact sends_notifyCounted rfl
  rw [List.map_map, List.map_eq_flatMap]
  refine sends_bind_read (c := .rangeByScore _ _ _) (a := s.usersIn t band b) ?_ husers
  intro m hm
  subst hm
  rfl

/-- The scan attempts the alerts of all pairs that it meets. -/
theorem sends_alertAll (hf : Signed64.Fits s.alerts.ceiling) :
    Sends t s.alertAll ((s.targets t).map (s.alertOf t)) := by
  have hbands : Sends t (sumOver (fun band => sumOver (s.alertBucket band) (s.bucketsIn t))
      ((List.range' 1 s.alerts.levels).map (AlertBand.spanning s.alerts.step)))
      ((s.targets t).map (s.alertOf t)) := by
    unfold targets
    rw [List.map_flatMap]
    refine sends_sumOver fun band hband => ?_
    obtain ⟨level, hlevel, rfl⟩ := List.mem_map.1 hband
    unfold targetsIn
    rw [List.map_flatMap]
    exact sends_sumOver fun b _ => sends_alertBucket h1 (List.mem_range'_1.1 hlevel).1 b
  unfold alertAll knownBuckets
  rw [Program.bind_assoc, AlertPolicy.bands_eq h1 hf]
  refine sends_bind_read (c := .rangeByScore _ _ _)
    (a := t.rangeByScore s.keys.bucketIndex 1 none) ?_ hbands
  intro m hm
  subst hm
  rfl

end Parts

/-- The mark of a scan is taken away at its end, and what it has sent is reported. -/
theorem keeps_completed {p : Operation Nat} {ns : List Notification} (h : Sends t p ns)
    (hT : T.memory.store = t) (job : ScanJob) :
    (concluding job p).Keeps amid
      (fun o T' => ∃ n, o = .ok (.completed n) ∧ Sent t ns T n T') T := by
  refine keeps_bind.2 (keeps_settle.2 ((h T hT).mono ?_))
  rintro _ T' ⟨n, rfl, hs⟩
  refine ⟨True.intro, ?_⟩
  rintro _ _ ⟨m, refused, hm, -, rfl, rfl⟩
  obtain ⟨as, ha, hn, hk, hc⟩ := hs.attempted
  refine ⟨n, rfl, hm.store.trans hs.store, as, ?_, hn, hk, fun level => ?_⟩
  · rw [attempts_extend, ha]
    exact List.append_nil _
  · show Counts _ _ (m.metrics.value _)
    rw [hm.alerts]
    exact hc level

/-- What a scan of the alerts does in a presence store, if these are the pairs to be alerted. -/
structure Alerted (s : Service) (m : Memory) (ps : List (Int × String))
    (x : Outcome ScanReport × Trail) : Prop where
  /-- One alert is attempted for each pair, in their order, and no other notification. -/
  attempted : x.2.attempts.map (·.1) = ps.map (s.alertOf m.store)
  /-- The report tells the number of those that were sent. -/
  reported : x.1 = .ok (.completed (x.2.attempts.countP (·.2)))
  /-- So do the counters, level by level. -/
  counted : ∀ level : Nat, Counts (m.metrics.value (.alertsSent (toString level)))
    (sentAt level x.2.attempts) (x.2.memory.metrics.value (.alertsSent (toString level)))
  store : x.2.memory.store = m.store

section Scan

variable {f : Refusals} {g : Meanwhile} {m : Memory}

/-- A scan whose mark can be set meets all pairs that are to be alerted. -/
theorem alerted_targets (h1 : 1 ≤ s.alerts.minutes) (hf : Signed64.Fits s.alerts.ceiling)
    (hn : f.Within Call.IsNotify) (hg : ∀ n (m : Memory), m.Unmoved (g n m))
    (hfree : ((g 0 m).guards .alertBand).isRunning = false) :
    s.Alerted m (s.targets m.store) ((⟨m, []⟩ : Trail).runAmid g f (s.scan .alertBand)) := by
  -- the mark is set by the first call
  let x : Exchange := ⟨.enter .alertBand, g 0 m, f 0 (.enter .alertBand)⟩
  have henter : serveAmid g f (.enter .alertBand) ⟨m, []⟩ = (.ok true, ⟨x.after, [x]⟩) := by
    have hr : x.reply = .ok !((g 0 m).guards .alertBand).isRunning := rfl
    rw [hfree] at hr
    exact congrArg (·, _) hr
  have hx : m.Unmoved x.after := ⟨(hg 0 m).store, (hg 0 m).alerts⟩
  have hrest : (⟨m, []⟩ : Trail).runAmid g f (s.scan .alertBand) =
      (⟨x.after, [x]⟩ : Trail).runAmid g f (concluding .alertBand s.alertAll) := by
    show Program.run (serveAmid g f) (of (.enter .alertBand) >>= _) _ = _
    rw [Program.run_bind, show Program.run (serveAmid g f) (of (.enter .alertBand)) ⟨m, []⟩ = _ from
      henter]
    rfl
  have hkeeps := keeps_completed (T := ⟨x.after, [x]⟩) (sends_alertAll h1 hf) hx.store .alertBand
  have hserve : ∀ c T, amid.answers c T (serveAmid g f c T).1 (serveAmid g f c T).2 := fun c T =>
    ⟨g T.calls.length T.memory, f T.calls.length c, hg _ _, hn _ c, rfl, rfl⟩
  obtain ⟨n, ho, hs⟩ := hkeeps.run hserve
  obtain ⟨as, ha, hns, hk, hc⟩ := (hs.of_unmoved (T := ⟨m, []⟩) rfl hx).attempted
  rw [hrest]
  have has : ((⟨x.after, [x]⟩ : Trail).runAmid g f
      (concluding .alertBand s.alertAll)).2.attempts = as := ha
  refine ⟨has ▸ hns, ?_, fun level => has ▸ hc level, hs.store⟩
  rw [has, ← hk]
  exact ho

/-- Sending the alerts of a user is attempted as often as the user is to be alerted. -/
theorem Alerted.countP_user {ps : List (Int × String)} {x : Outcome ScanReport × Trail}
    (h : s.Alerted m ps x) (user : String) :
    x.2.attempts.countP (fun a => a.1.user = user) = ps.countP (fun p => p.2 = user) := by
  have hleft := List.countP_map (p := fun n : Notification => decide (n.user = user)) (f := (·.1))
    (l := x.2.attempts)
  have hright := List.countP_map (p := fun n : Notification => decide (n.user = user))
    (f := s.alertOf m.store) (l := ps)
  rw [h.attempted] at hleft
  exact hleft.symm.trans hright

end Scan

/-- Two bands of a minute each. -/
def everyMinute : Service := { standard with alerts := ⟨1, 2⟩ }

/-- Two users online, one of them for longer and with another alert range. -/
def twoOnline : List Happening :=
  [.profile "bob" 7, .request (.activity "bob"), .clock ⟨1792324850000, by decide⟩,
    .request (.activity "bob"), .request (.activity "ada"), .clock ⟨1792324900000, by decide⟩,
    .request (.activity "bob"), .request (.activity "ada"), .clock ⟨1792324950000, by decide⟩,
    .request (.activity "bob"), .request (.activity "ada")]

/-- The notifications to one user cannot be sent. -/
def unreachable (user : String) : Refusals := fun _ c =>
  match c with
  | .notify n => if n.user = user then some (.reported "no device") else none
  | _ => none

end Service

end Presence
