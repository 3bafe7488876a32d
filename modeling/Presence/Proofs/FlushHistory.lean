import Presence.Proofs.DayKeys
import Presence.Proofs.KnownRange
import Presence.Proofs.Refusals
import Presence.Proofs.StatisticHistory

/-!
# Sessions in the statistics

Every session that ends is written to the day on which it ended, in the zone of the service. Main
statements: `Trail.records_proceed`, the daily statistics are the history of the sessions that
were written, and `Service.reports_follow_calendar`, a query for the days from one date to another
counts the sessions of the user with a local date between them.
-/

set_option autoImplicit false

namespace Presence

open Operation Program

/-! ## Ranges of keys -/

namespace Date

variable {d e first last : Date}

/-- A date lies between two others, both inclusive. -/
def isBetween (first last d : Date) : Bool := decide (first ≤ d) && decide (d ≤ last)

/-- Keys of dates without a plus sign lie around the key of a plain date as the dates do. -/
theorem key_le_iff (hd : d.Plain) (he : e.year ≤ 9999) :
    (Text.octets e.key ≤ Text.octets d.key ↔ e ≤ d) ∧
      (Text.octets d.key ≤ Text.octets e.key ↔ d ≤ e) := by
  rw [← not_lt, ← not_lt, ← not_lt_iff, ← not_lt_iff]
  by_cases hneg : e.year < 0
  · have hkey := key_lt_of_neg hneg hd
    have hlt : e < d := lt_iff.2 (.inl (lt_of_lt_of_le hneg hd.1))
    have hnot : ¬ d < e := by
      rw [lt_iff_dayNumber_lt] at hlt ⊢
      exact lt_asymm hlt
    exact ⟨iff_of_true (lt_asymm hkey) hnot, iff_of_false (not_not_intro hkey) (not_not_intro hlt)⟩
  · have hplain : e.Plain := ⟨not_lt.1 hneg, he⟩
    exact ⟨not_congr (key_lt_iff hd hplain), not_congr (key_lt_iff hplain hd)⟩

theorem isBetween_key (hd : d.Plain) (hle : first ≤ last) (hlast : last.year ≤ 9999) :
    Text.isBetween first.key last.key d.key = isBetween first last d := by
  have hfirst : first.year ≤ 9999 := by
    by_contra hgt
    exact not_lt_iff.2 hle (lt_iff.2 (.inl (lt_of_le_of_lt hlast (not_le.1 hgt))))
  rw [Text.isBetween, isBetween]
  simp only [(key_le_iff hd hfirst).1, (key_le_iff hd hlast).2]

end Date

/-! ## Sessions that were written -/

/-- A session that was written to the daily statistics: whose it was, in which zone and when it was
written, and its seconds. -/
structure Flush where
  user : String
  zone : Zone
  time : Instant
  seconds : Int

namespace Flush

/-- The local date of the end of the session. -/
def date (x : Flush) : Date := x.zone.dateAt x.time

/-- What the session adds to the daily statistics. -/
def increment (x : Flush) : Increment := ⟨x.user, x.zone.dayKey x.time, x.seconds⟩

/-- The session belongs to a user and ended on a date between two others, both inclusive. -/
def isWithin (user : String) (first last : Date) (x : Flush) : Bool :=
  x.user = user && Date.isBetween first last x.date

/-- The seconds of the sessions of a user between two dates. -/
def sumOf (user : String) (first last : Date) (fs : List Flush) : Int :=
  ((fs.filter (isWithin user first last)).map (·.seconds)).sum

variable {fs : List Flush} {user : String} {first last : Date}

/-- The keys pick out the sessions that the dates pick out. -/
theorem sumOf_increment (hplain : ∀ x ∈ fs, x.date.Plain) (hle : first ≤ last)
    (hlast : last.year ≤ 9999) :
    Increment.sumOf (Increment.isWithin user first.key last.key) (fs.map increment) =
      sumOf user first last fs := by
  have hwithin (x : Flush) (hx : x ∈ fs) :
      Increment.isWithin user first.key last.key x.increment = isWithin user first last x := by
    unfold Increment.isWithin isWithin
    rw [← Date.isBetween_key (hplain x hx) hle hlast]
    rfl
  unfold Increment.sumOf sumOf
  rw [List.filter_map, List.map_map]
  exact congrArg (fun l => (List.map _ l).sum) (List.filter_congr hwithin)

end Flush

/-- The session that a call has written, in the zone of the service. -/
def Exchange.flush? (z : Zone) (x : Exchange) : Option Flush :=
  match x.call with
  | .ledger (.add user _ seconds) =>
    if x.reply.isOk then some ⟨user, z, x.before.clock.now, seconds⟩ else none
  | _ => none

/-- What a call adds to the daily statistics, if anything, is more than nothing and belongs to a
day. -/
def Call.IsFor (day : String) (c : Call) : Prop :=
  ∀ user d n, c = .ledger (.add user d n) → d = day ∧ 0 < n

namespace Exchange

variable {c : Call} {m : Memory} {refused : Option Failure}

theorem clock_after (c : Call) (m : Memory) (refused : Option Failure) :
    (⟨c, m, refused⟩ : Exchange).after.clock = m.clock :=
  holds_after (I := fun m' => m'.clock = m.clock) rfl (m.clock_serve c) refused

/-- Only an addition changes the daily statistics. -/
theorem ledger_after_of_ne (hc : ∀ user day n, c ≠ .ledger (.add user day n)) (m : Memory)
    (refused : Option Failure) : (⟨c, m, refused⟩ : Exchange).after.ledger = m.ledger := by
  refine holds_after (I := fun m' => m'.ledger = m.ledger) rfl ?_ refused
  cases c with
  | ledger c =>
      cases c with
      | add user day n => exact absurd rfl (hc user day n)
      | find user day => rfl
      | range user first last => rfl
  | _ => rfl

theorem flush?_of_ne (hc : ∀ user day n, c ≠ .ledger (.add user day n)) (z : Zone) (m : Memory)
    (refused : Option Failure) : (⟨c, m, refused⟩ : Exchange).flush? z = none := by
  unfold flush?
  split
  · rename_i user day n hcall
    exact absurd hcall (hc user day n)
  · rfl

/-- An addition that succeeds adds to the daily statistics; otherwise nothing has changed. -/
theorem add_cases (user day : String) (n : Int) (m : Memory) (refused : Option Failure) :
    let x : Exchange := ⟨.ledger (.add user day n), m, refused⟩
    (x.reply.isOk = true ∧ Signed64.Fits (m.ledger.spentOn user day + n) ∧
        x.after = { m with ledger := (m.ledger.add user day n).2 }) ∨
      (x.reply.isOk = false ∧ x.after = m) := by
  intro x
  rcases cases_refusal x.call m refused with ⟨e, hr, ha⟩ | ⟨hr, ha⟩
  · exact .inr ⟨congrArg Outcome.isOk hr, ha⟩
  · by_cases hfits : Signed64.Fits (m.ledger.spentOn user day + n)
    · have hserve := Memory.run_addSpent_of_fits hfits
      have hok : x.reply = .ok () := hr.trans (congrArg (·.1) hserve)
      exact .inl ⟨by rw [hok]; rfl, hfits, ha.trans (congrArg (·.2) hserve)⟩
    · have hserve := Memory.run_addSpent_of_not_fits hfits
      have hcrash : x.reply = .crashed .addition := hr.trans (congrArg (·.1) hserve)
      exact .inr ⟨by rw [hcrash]; rfl, ha.trans (congrArg (·.2) hserve)⟩

end Exchange

/-- The daily statistics are the history of the sessions that were written. -/
structure Memory.Records (fs : List Flush) (m : Memory) : Prop where
  ledger : m.ledger = Ledger.ofHistory (fs.map Flush.increment)
  fits : Increment.FitThroughout (fs.map Flush.increment)
  pos : ∀ x ∈ fs, 0 < x.seconds

namespace Memory.Records

variable {fs : List Flush} {m m' : Memory}

theorem of_ledger_eq (h : m.Records fs) (he : m'.ledger = m.ledger) : m'.Records fs :=
  ⟨he.trans h.ledger, h.fits, h.pos⟩

theorem of_empty (h : m.ledger = {}) : m.Records [] :=
  ⟨h, .of_small (by decide), fun _ hx => nomatch hx⟩

/-- One more session. -/
theorem concat (h : m.Records fs) {x : Flush} (hpos : 0 < x.seconds)
    (hfits : Signed64.Fits (m.ledger.spentOn x.user (x.zone.dayKey x.time) + x.seconds))
    (hledger : m'.ledger = (m.ledger.add x.user (x.zone.dayKey x.time) x.seconds).2) :
    m'.Records (fs ++ [x]) := by
  have hmap : (fs ++ [x]).map Flush.increment = fs.map Flush.increment ++ [x.increment] :=
    List.map_append
  refine ⟨?_, ?_, ?_⟩
  · rw [hmap, Ledger.ofHistory_concat, ← h.ledger]
    exact hledger
  · rw [h.ledger, Ledger.spentOn_ofHistory h.fits] at hfits
    rw [hmap]
    exact h.fits.concat hfits
  · intro y hy
    rcases List.mem_append.1 hy with hy | hy
    · exact h.pos y hy
    · rw [List.mem_singleton.1 hy]
      exact hpos

end Memory.Records

namespace Trail

variable {z : Zone} {old : List Flush} {T : Trail} {t : Instant} {α β : Type}

/-- The sessions that were written, the first one first. -/
def flushes (z : Zone) (T : Trail) : List Flush := T.calls.reverse.filterMap (Exchange.flush? z)

theorem flushes_extend (z : Zone) (T : Trail) (x : Exchange) :
    (T.extend x).flushes z = T.flushes z ++ (x.flush? z).toList := by
  unfold flushes extend
  rw [List.reverse_cons, List.filterMap_append]
  cases h : x.flush? z <;> simp [h]

/-- At an instant the daily statistics are the history of the sessions of old and of those that were
written since. -/
structure Accounted (z : Zone) (old : List Flush) (t : Instant) (T : Trail) : Prop where
  records : T.memory.Records (old ++ T.flushes z)
  clock : T.memory.clock.now = t

/-- Every call for the day of the clock keeps the account, refused or not. -/
theorem Accounted.extend (h : Accounted z old t T) {c : Call} (hc : c.IsFor (z.dayKey t))
    (refused : Option Failure) : Accounted z old t (T.extend ⟨c, T.memory, refused⟩) := by
  refine ⟨?_, (congrArg Clock.now (Exchange.clock_after c T.memory refused)).trans h.clock⟩
  rw [flushes_extend, ← List.append_assoc]
  by_cases hadd : ∃ user day n, c = .ledger (.add user day n)
  · obtain ⟨user, day, n, rfl⟩ := hadd
    obtain ⟨rfl, hpos⟩ := hc user day n rfl
    have hflush : (⟨.ledger (.add user (z.dayKey t) n), T.memory, refused⟩ : Exchange).flush? z =
        if (⟨.ledger (.add user (z.dayKey t) n), T.memory, refused⟩ : Exchange).reply.isOk then
          some ⟨user, z, t, n⟩ else none := by
      rw [← h.clock]
      rfl
    rw [hflush]
    rcases Exchange.add_cases user (z.dayKey t) n T.memory refused with ⟨hok, hfits, ha⟩ | ⟨hr, ha⟩
    · rw [if_pos hok]
      exact h.records.concat (x := ⟨user, z, t, n⟩) hpos hfits (congrArg Memory.ledger ha)
    · rw [if_neg (by rw [hr]; exact Bool.false_ne_true), Option.toList_none, List.append_nil]
      exact h.records.of_ledger_eq (congrArg Memory.ledger ha)
  · have hne : ∀ user day n, c ≠ .ledger (.add user day n) :=
      fun user day n e => hadd ⟨user, day, n, e⟩
    rw [Exchange.flush?_of_ne hne, Option.toList_none, List.append_nil]
    exact h.records.of_ledger_eq (Exchange.ledger_after_of_ne hne T.memory refused)

/-! ## What the operations write -/

/-- A program whose calls are for the day of the clock keeps the account. -/
theorem Accounted.keeps (h : Accounted z old t T) {p : Operation α}
    (hp : p.Only (Call.IsFor (z.dayKey t))) :
    p.Keeps anyRefusing (fun _ T' => Accounted z old t T') T := by
  refine Only.keeps (I := Accounted z old t) (fun c T' hc hT => ⟨True.intro, ?_⟩) hp h
  rintro r T'' ⟨refused, -, rfl, rfl⟩
  exact hT.extend hc refused

theorem Accounted.keeps_bind (h : Accounted z old t T) {p : Operation β} {g : β → Operation α}
    (hp : p.Only (Call.IsFor (z.dayKey t)))
    (hg : ∀ b T', Accounted z old t T' →
      (g b).Keeps anyRefusing (fun _ T'' => Accounted z old t T'') T') :
    (p >>= g).Keeps anyRefusing (fun _ T' => Accounted z old t T') T := by
  refine Program.keeps_bind.2 ((h.keeps hp).mono fun o T' hT' => ?_)
  cases o with
  | ok b => exact hg b T' hT'
  | failed e => exact hT'
  | crashed c => exact hT'

/-- A program that reads the clock and then makes calls for the day it has read. -/
theorem Accounted.keeps_bind_now (h : Accounted z old t T) {g : Instant → Operation α}
    (hg : (g t).Only (Call.IsFor (z.dayKey t))) :
    (now >>= g).Keeps anyRefusing (fun _ T' => Accounted z old t T') T := by
  refine keeps_bind_of fun refused _ => ?_
  show (g T.memory.clock.now).Keeps anyRefusing _ _
  rw [h.clock]
  exact (h.extend (c := .now) (fun _ _ _ e => nomatch e) refused).keeps hg

end Trail

namespace Service

variable {s : Service} {old : List Flush} {T : Trail} {t : Instant}

theorem admits_isFor (s : Service) (user : String) (t : Instant) :
    s.Admits user t (Call.IsFor (s.session.zone.dayKey t)) where
  store _ _ _ _ e := nomatch e
  profile _ _ _ e := nomatch e
  spend h u d n e := by
    cases e
    exact ⟨rfl, h⟩
  flushed _ _ _ e := nomatch e
  seconds _ _ _ _ e := nomatch e

theorem isFor_of_isReading {c : Call} {day : String} (h : c.isReading = true) : c.IsFor day := by
  rintro u d n rfl
  cases h

theorem keeps_onActivity (h : Trail.Accounted s.session.zone old t T) (user : String) :
    (s.onActivity user).Keeps Trail.anyRefusing
      (fun _ T' => Trail.Accounted s.session.zone old t T') T := by
  have ha := s.admits_isFor user t
  rw [onActivity_eq]
  exact h.keeps_bind_now (Only.bind ha.resolve fun b => ha.activityIn b)

theorem keeps_onHeartbeat (h : Trail.Accounted s.session.zone old t T) (user : String) :
    (s.onHeartbeat user).Keeps Trail.anyRefusing
      (fun _ T' => Trail.Accounted s.session.zone old t T') T := by
  have ha := s.admits_isFor user t
  refine h.keeps_bind ha.resolve fun b T₁ h₁ => ?_
  refine h₁.keeps_bind (only_ask (ha.store _)) fun marker T₂ h₂ => ?_
  cases marker with
  | some text => exact h₂
  | none =>
      refine h₂.keeps_bind (only_ask (ha.store _)) fun accrued T₃ h₃ => ?_
      split
      · exact h₃
      · exact h₃.keeps_bind_now (Only.bind (ha.closeSession _ accrued) fun _ => only_pure _)

/-- Every request keeps the account, whatever is refused. -/
theorem keeps_perform (h : Trail.Accounted s.session.zone old t T) (r : Request) :
    (s.perform r).Keeps Trail.anyRefusing
      (fun _ T' => Trail.Accounted s.session.zone old t T') T := by
  have ha := fun user => s.admits_isFor user t
  cases r with
  | activity u => exact (keeps_onActivity h u).map _
  | heartbeat u => exact (keeps_onHeartbeat h u).map _
  | changeRange u range => exact h.keeps (Only.bind ((ha u).changeRange range) fun _ => only_pure _)
  | resolve u => exact h.keeps (Only.bind (ha u).resolve fun _ => only_pure _)
  | liveAccrual u =>
      refine h.keeps (Only.bind (Only.bind (ha u).resolve fun b => ?_) fun _ => only_pure _)
      exact only_ask ((ha u).store _)
  | knownBuckets => exact h.keeps ((reads_perform rfl).mono fun _ => isFor_of_isReading)
  | scan job => exact h.keeps ((reads_perform rfl).mono fun _ => isFor_of_isReading)

end Service

namespace Trail

variable {s : Service} {old : List Flush} {T : Trail}

theorem records_happen (h : T.memory.Records (old ++ T.flushes s.session.zone)) (f : Refusals)
    (a : Happening) :
    (T.happen s f a).2.memory.Records (old ++ (T.happen s f a).2.flushes s.session.zone) := by
  cases a with
  | request r =>
      exact (run_of_keeps_any f (Service.keeps_perform ⟨h, rfl⟩ r)).records
  | profile u r => exact h.of_ledger_eq rfl
  | clock t => exact h.of_ledger_eq rfl

/-- Whatever happens one after another, and whatever is refused: the daily statistics are the
history of the sessions that were written. -/
theorem records_proceed (h : T.memory.Records (old ++ T.flushes s.session.zone)) (f : Refusals)
    (hs : List Happening) :
    (T.proceed s f hs).2.memory.Records
      (old ++ (T.proceed s f hs).2.flushes s.session.zone) := by
  -- the induction is on what happens; the account is kept by everything that can
  induction hs generalizing T with
  | nil => exact h
  | cons a rest ih => exact ih (records_happen h f a)

end Trail

/-! ## Reports -/

/-- A service with its settings from its start to its end: what happens to it, and which of its
calls are refused. -/
structure Life where
  service : Service
  refusals : Refusals
  happenings : List Happening

namespace Memory

/-- Lets a service live, and tells the sessions that it writes. -/
def live (l : Life) (m : Memory) : List Flush × Memory :=
  let T := ((⟨m, []⟩ : Trail).proceed l.service l.refusals l.happenings).2
  (T.flushes l.service.session.zone, T.memory)

/-- Lets services live one after another, each with settings of its own. -/
def liveAll : List Life → Memory → List Flush × Memory
  | [], m => ([], m)
  | l :: rest, m =>
    let (fs, m) := m.live l
    let (gs, m) := m.liveAll rest
    (fs ++ gs, m)

variable {m : Memory} {old fs : List Flush}

theorem Records.live (h : m.Records old) (l : Life) :
    (m.live l).2.Records (old ++ (m.live l).1) := by
  -- nothing was written before the service started
  have hstart : (⟨m, []⟩ : Trail).memory.Records
      (old ++ (⟨m, []⟩ : Trail).flushes l.service.session.zone) := by
    rw [show (⟨m, []⟩ : Trail).flushes l.service.session.zone = [] from rfl, List.append_nil]
    exact h
  exact Trail.records_proceed hstart l.refusals l.happenings

theorem Records.liveAll (h : m.Records old) (ls : List Life) :
    (m.liveAll ls).2.Records (old ++ (m.liveAll ls).1) := by
  induction ls generalizing m old with
  | nil => rwa [Memory.liveAll, List.append_nil]
  | cons l rest ih =>
      rw [Memory.liveAll]
      dsimp only
      rw [← List.append_assoc]
      exact ih (h.live l)

/-- A query counts the sessions of its user between two dates, if their sum fits. -/
theorem Records.run_spentBetween_iff (h : m.Records fs) (hplain : ∀ x ∈ fs, x.date.Plain)
    (user : String) {first last : Date} (hle : first ≤ last) (hlast : last.year ≤ 9999) :
    m.run (Service.spentBetween user first.key last.key) =
        (.ok (Flush.sumOf user first last fs), m) ↔
      Signed64.Fits (Flush.sumOf user first last fs) := by
  rw [← Flush.sumOf_increment hplain hle hlast]
  constructor
  · intro hrun
    rw [Service.run_spentBetween] at hrun
    exact Service.fits_of_sumSeconds (by decide) (congrArg (·.1) hrun)
  · intro hfits
    refine (Service.run_spentBetween_eq_ok_iff h.ledger h.fits).2 fun i _ hi => ?_
    have hpos : ∀ j ∈ fs.map Flush.increment, 0 < j.seconds := by
      intro j hj
      obtain ⟨x, hx, rfl⟩ := List.mem_map.1 hj
      exact h.pos x hx
    -- the sum up to a day is a part of the whole, and nothing is negative
    have hsum := Increment.sumOf_le (p := Increment.isWithin user first.key i.day)
      (q := Increment.isWithin user first.key last.key) hpos fun j _ hj => ?_
    · exact ⟨le_trans (by decide) hsum.1, hsum.2.trans hfits.2⟩
    · simp only [Increment.isWithin, Text.isBetween, Bool.and_eq_true, decide_eq_true_eq] at hi hj ⊢
      exact ⟨hj.1, hj.2.1, hj.2.2.trans hi.2.2⟩

end Memory

/-- Keys stand for the local dates of instants: a plain date is the day that a clock of the zone
shows, its key is read back as this date, and keys come in the order of the dates. So a query counts
exactly the sessions of its user that ended on a local date between two others, whatever has
happened to services in any zones, whatever was refused. -/
theorem Service.reports_follow_calendar :
    (∀ (z : Zone) (t : Instant), (z.dateAt t).dayNumber = z.localSeconds t / 86400 ∧
      ((z.dateAt t).Plain → Date.ofKey? (z.dayKey t) = some (z.dateAt t))) ∧
    (∀ (z z' : Zone) (t t' : Instant), (z.dateAt t).Plain → (z'.dateAt t').Plain →
      (Text.octets (z.dayKey t) < Text.octets (z'.dayKey t') ↔ z.dateAt t < z'.dateAt t') ∧
      (z.dayKey t = z'.dayKey t' ↔ z.dateAt t = z'.dateAt t')) ∧
    ∀ (m : Memory) (ls : List Life), m.ledger = {} →
      (∀ x ∈ (m.liveAll ls).1, x.date.Plain) →
      ∀ (user : String) (first last : Date), first ≤ last → last.year ≤ 9999 →
        ((m.liveAll ls).2.run (spentBetween user first.key last.key) =
            (.ok (Flush.sumOf user first last (m.liveAll ls).1), (m.liveAll ls).2) ↔
          Signed64.Fits (Flush.sumOf user first last (m.liveAll ls).1)) := by
  refine ⟨fun z t => ⟨Date.dayNumber_ofDayNumber _, Date.ofKey?_key⟩,
    fun z z' t t' h h' => ⟨Date.key_lt_iff h h', fun hkey => ?_, fun hdate => ?_⟩,
    fun m ls hm hplain user first last hle hlast => ?_⟩
  · have hread := Date.ofKey?_key h
    rw [show (z.dateAt t).key = (z'.dateAt t').key from hkey, Date.ofKey?_key h'] at hread
    exact (Option.some.inj hread).symm
  · exact congrArg Date.key hdate
  · have hrecords : (m.liveAll ls).2.Records ([] ++ (m.liveAll ls).1) :=
      (Memory.Records.of_empty hm).liveAll ls
    exact hrecords.run_spentBetween_iff hplain user hle hlast

/-- A clock thirteen hours ahead that is put back by a day, at half past noon in universal time. -/
def Zone.acrossTheLine : Zone := ⟨"Line", 46800, [(1792326600, -39600)]⟩

/-- Half a minute online and the end of the session, three times: in universal time, in a zone where
it is the next day, and an hour later when the clock of this zone has been put back. -/
def Life.twoZones : List Life :=
  let visit (t : Int) (h : 0 ≤ t ∧ t ≤ 3600000) : List Happening :=
    [.clock ⟨1792324800000 + t, by omega⟩, .request (.activity "ada"),
      .clock ⟨1792324830000 + t, by omega⟩, .request (.activity "ada"),
      .clock ⟨1792324930000 + t, by omega⟩, .request (.heartbeat "ada")]
  let session := Service.standard.session
  let abroad := { Service.standard with session := { session with zone := .acrossTheLine } }
  [⟨Service.standard, fun _ _ => none, visit 0 (by decide)⟩,
    ⟨abroad, fun _ _ => none, visit 600000 (by decide) ++ visit 3600000 (by decide)⟩]

theorem Service.reports_twoZones :
    let m' := ((Memory.fresh Clock.noon).liveAll Life.twoZones).2
    m'.run (spentBetween "ada" "20261018" "20261018") = (.ok 60, m') ∧
      m'.run (spentBetween "ada" "20261018" "20261019") = (.ok 90, m') ∧
      Date.ofKey? (Zone.acrossTheLine.dayKey Clock.noon) =
        some (Zone.acrossTheLine.dateAt Clock.noon) ∧
      Text.octets (Zone.utc.dayKey Clock.noon) <
        Text.octets (Zone.acrossTheLine.dayKey Clock.noon) := by
  intro m'
  obtain ⟨hread, horder, hcount⟩ := reports_follow_calendar
  let d : Date := ⟨2026, 10, 18, by decide, by decide⟩
  let e : Date := ⟨2026, 10, 19, by decide, by decide⟩
  have hplain : ∀ x ∈ ((Memory.fresh Clock.noon).liveAll Life.twoZones).1, x.date.Plain := by
    decide +kernel
  have hrun := hcount (Memory.fresh Clock.noon) Life.twoZones rfl hplain "ada"
  have hone : Flush.sumOf "ada" d d ((Memory.fresh Clock.noon).liveAll Life.twoZones).1 = 60 := by
    decide +kernel
  have htwo : Flush.sumOf "ada" d e ((Memory.fresh Clock.noon).liveAll Life.twoZones).1 = 90 := by
    decide +kernel
  have hd : d.key = "20261018" := by decide +kernel
  have he : e.key = "20261019" := by decide +kernel
  have hdd := hrun d d (by decide) (by decide)
  have hde := hrun d e (by decide) (by decide)
  rw [hone, hd] at hdd
  rw [htwo, hd, he] at hde
  have hutc : (Zone.utc.dateAt Clock.noon).Plain := by decide +kernel
  have hahead : (Zone.acrossTheLine.dateAt Clock.noon).Plain := by decide +kernel
  exact ⟨hdd.2 (by decide), hde.2 (by decide), (hread _ _).2 hahead,
    (horder _ _ _ _ hutc hahead).1.2 (by decide +kernel)⟩

end Presence
