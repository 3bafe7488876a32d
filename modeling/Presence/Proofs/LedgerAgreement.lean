import Mathlib.Data.List.Sort
import Presence.Proofs.Documents
import Presence.Proofs.StatisticHistory

/-!
# The daily statistics in memory and the daily statistics in MongoDB

A record is a document with four fields among others, and one for each user and day. Main statement:
`Remote.ledger_agrees`, where nothing was recorded before, every call of a run comes back alike from
both, as long as the sums of seconds fit. Of the server only the queries and updates of that run are
asked (`Remote.Asks`, `Remote.Makes`).
-/

set_option autoImplicit false

namespace Presence

open Increment

namespace Ledger

/-- The replies to the calls of a run, one after another. -/
abbrev replies (visits : List (Visit LedgerCall)) (l : Ledger) :
    List (Σ c : LedgerCall, Outcome c.Reply) :=
  Visit.answers (fun _ c l => serve c l) visits l

/-- The seconds that a call adds. -/
def addition? : LedgerCall → Option Increment
  | .add user day seconds => some ⟨user, day, seconds⟩
  | _ => none

/-- The seconds that the calls of a run add, one after another. -/
def additions (visits : List (Visit LedgerCall)) : List Increment :=
  visits.filterMap fun v => addition? v.call

/-- A range lists the records that are found for the user on the days between. -/
theorem mem_range_iff {is : List Increment} (h : FitThroughout is) {user first last : String}
    {r : DailyStatistic} : r ∈ (ofHistory is).range user first last ↔
      r.user = user ∧ Text.isBetween first last r.day = true ∧
        (ofHistory is).find r.user r.day = some r := by
  rw [mem_range h, find_ofHistory h]
  obtain ⟨u, day, seconds, point⟩ := r
  dsimp only
  constructor
  · rintro ⟨rfl, hday, hany, rfl, rfl⟩
    exact ⟨rfl, hday, by rw [if_pos (List.any_eq_true.2 hany)]⟩
  · rintro ⟨rfl, hday, hfind⟩
    split at hfind
    · rename_i hany
      cases hfind
      exact ⟨rfl, hday, List.any_eq_true.1 hany, rfl, rfl⟩
    · cases hfind

end Ledger

namespace Remote

open Documents

/-! ## Records as documents -/

/-- The fields that tell one record from the others. -/
def recordFields : List String := ["userId", "createdDate"]

/-- The filter for the record of a user and a day. -/
def recordFilter (user day : String) : BsonDocument :=
  [("userId", .string user), ("createdDate", .string day)]

/-- The filter for the records of a user from a day to another. -/
def rangeFilter (user first last : String) : BsonDocument :=
  [("userId", .string user),
    ("createdDate", .document [("$gte", .string first), ("$lte", .string last)])]

/-- The operators that add seconds to a record, which is made if there is none. -/
def adding (seconds : Int) (stamp : Bson) : BsonDocument :=
  [("$inc", .document [("spentTimeSecond", .integer seconds)]),
    ("$setOnInsert", .document [("point", .integer 0), ("createdAt", stamp)]),
    ("$set", .document [("updatedAt", stamp)])]

/-- The sort that puts records in the order of their days. -/
def byDay : BsonDocument := [("createdDate", .integer 1)]

/-- A call asks for the documents of a filter, in an order. -/
inductive Asks : LedgerCall → BsonDocument → BsonDocument → Prop where
  | find (user day : String) : Asks (.find user day) (recordFilter user day) []
  | range (user first last : String) :
    Asks (.range user first last) (rangeFilter user first last) byDay

/-- A call changes the document of a filter by operators, with the stamp of some instant. -/
inductive Makes : LedgerCall → BsonDocument → BsonDocument → Prop where
  | add (user day : String) (seconds : Int) (stamp : Instant) :
    Makes (.add user day seconds) (recordFilter user day) (adding seconds (.date stamp))

/-- A document tells a record. -/
structure Tells (d : BsonDocument) (r : DailyStatistic) : Prop where
  user : d.lookup "userId" = some (.string r.user)
  day : d.lookup "createdDate" = some (.string r.day)
  spent : d.lookup "spentTimeSecond" = some (.integer r.spentSeconds)
  point : d.lookup "point" = some (.integer r.point)

section Tells

variable {d : BsonDocument} {r : DailyStatistic} {user day first last : String}

theorem Tells.text_user (h : Tells d r) : Bson.text? d "userId" = some r.user := by
  rw [Bson.text?, h.user]

theorem Tells.text_day (h : Tells d r) : Bson.text? d "createdDate" = some r.day := by
  rw [Bson.text?, h.day]

theorem Tells.statistic?_eq (h : Tells d r) : statistic? d = .ok r := by
  simp [statistic?, h.text_user, h.text_day, Bson.integer?, h.spent, h.point]

theorem Tells.keyOf_eq (h : Tells d r) : keyOf recordFields d = [some r.user, some r.day] := by
  simp [keyOf, recordFields, h.text_user, h.text_day]

theorem Tells.satisfies_record (h : Tells d r) :
    satisfies (recordFilter user day) d = decide (r.user = user ∧ r.day = day) := by
  simp [satisfies, recordFilter, h.text_user, h.text_day, admits, eq_comm]

theorem Tells.satisfies_range (h : Tells d r) :
    satisfies (rangeFilter user first last) d =
      (decide (r.user = user) && Text.isBetween first last r.day) := by
  simp [satisfies, rangeFilter, h.text_user, h.text_day, admits, holds, Text.isBetween, eq_comm]

/-- A document that tells a record tells the record with more seconds after they were added. -/
theorem Tells.change? (h : Tells d r) {seconds : Int}
    (hfits : Signed64.Fits (r.spentSeconds + seconds)) (stamp : Bson) :
    ∃ d', change? false (adding seconds stamp) d = some d' ∧
      Tells d' { r with spentSeconds := r.spentSeconds + seconds } := by
  refine ⟨Toml.put "updatedAt" stamp
    (Toml.put "spentTimeSecond" (.integer (r.spentSeconds + seconds)) d), ?_, ?_⟩
  · simp [Documents.change?, adding, operate?, increase?, h.spent, Signed64.add?_of_fits hfits,
      setAll]
  · constructor <;> simp [Toml.lookup_put_ne, Toml.lookup_put_self, h.user, h.day, h.point]

/-- The document that is inserted tells a record with the added seconds alone. -/
theorem exists_inserted (user day : String) (seconds : Int) (stamp id : Bson) :
    ∃ d, Documents.change? true (adding seconds stamp)
        (("_id", id) :: equalities (recordFilter user day)) = some d ∧
      Tells d ⟨user, day, seconds, 0⟩ := by
  refine ⟨Toml.put "updatedAt" stamp (Toml.put "createdAt" stamp (Toml.put "point" (.integer 0)
    (Toml.put "spentTimeSecond" (.integer seconds)
      (("_id", id) :: equalities (recordFilter user day))))), ?_, ?_⟩
  · simp [Documents.change?, adding, operate?, increase?, setAll, equalities, recordFilter,
      List.lookup_cons]
  · constructor <;> simp [Toml.lookup_put_ne, Toml.lookup_put_self, equalities, recordFilter,
      List.lookup_cons]

end Tells

/-! ## Collections of records -/

/-- Documents tell the records of a ledger, each record once. -/
structure Copies (ds : List BsonDocument) (l : Ledger) : Prop where
  kept : ∀ d ∈ ds, ∃ r, Tells d r ∧ l.find r.user r.day = some r
  told : ∀ user day r, l.find user day = some r → ∃ d ∈ ds, Tells d r ∧ r.user = user ∧ r.day = day
  distinct : Distinct recordFields ds

section Copies

variable {ds before after : List BsonDocument} {d : BsonDocument} {l l' : Ledger}
  {r : DailyStatistic} {user day first last : String}

theorem Copies.empty : Copies [] {} where
  kept _ hd := nomatch hd
  told _ _ _ h := nomatch h
  distinct := List.nodup_nil

/-- Documents that tell records of one user and day are one. -/
theorem Copies.eq_of_tells (h : Copies ds l) {d₁ d₂ : BsonDocument} {r₁ r₂ : DailyStatistic}
    (hd₁ : d₁ ∈ ds) (hd₂ : d₂ ∈ ds) (h₁ : Tells d₁ r₁) (h₂ : Tells d₂ r₂)
    (huser : r₁.user = r₂.user) (hday : r₁.day = r₂.day) : d₁ = d₂ := by
  refine List.inj_on_of_nodup_map h.distinct hd₁ hd₂ ?_
  rw [h₁.keyOf_eq, h₂.keyOf_eq, huser, hday]

/-- One document comes in for a record that the others do not tell. -/
theorem Copies.insert
    (hkept : ∀ d ∈ before ++ after, ∃ r, Tells d r ∧ l.find r.user r.day = some r ∧
      ¬ (r.user = user ∧ r.day = day))
    (htold : ∀ u v r, l.find u v = some r → ¬ (u = user ∧ v = day) →
      ∃ d ∈ before ++ after, Tells d r ∧ r.user = u ∧ r.day = v)
    (hdistinct : Distinct recordFields (before ++ after)) (hd : Tells d r) (huser : r.user = user)
    (hday : r.day = day)
    (hfind : ∀ u v, l'.find u v = if u = user ∧ v = day then some r else l.find u v) :
    Copies (before ++ d :: after) l' where
  kept x hx := by
    rcases List.mem_cons.1 (List.perm_middle.subset hx) with rfl | hx
    · exact ⟨r, hd, by rw [hfind, if_pos ⟨huser, hday⟩]⟩
    · obtain ⟨r', hr', hfound, hne⟩ := hkept x hx
      exact ⟨r', hr', by rw [hfind, if_neg hne, hfound]⟩
  told u v r' hr' := by
    rw [hfind] at hr'
    split at hr'
    · rename_i hkey
      cases hr'
      exact ⟨d, by simp, hd, huser.trans hkey.1.symm, hday.trans hkey.2.symm⟩
    · rename_i hkey
      obtain ⟨x, hx, htells⟩ := htold u v r' hr' hkey
      exact ⟨x, List.perm_middle.symm.subset (List.mem_cons_of_mem d hx), htells⟩
  distinct := by
    unfold Distinct at hdistinct ⊢
    rw [List.map_append] at hdistinct
    rw [List.map_append, List.map_cons, List.nodup_middle, List.nodup_cons]
    refine ⟨fun hmem => ?_, hdistinct⟩
    rw [← List.map_append] at hmem
    obtain ⟨x, hx, hkey⟩ := List.mem_map.1 hmem
    obtain ⟨r', hr', -, hne⟩ := hkept x hx
    rw [hr'.keyOf_eq, hd.keyOf_eq, huser, hday] at hkey
    exact hne (by simpa using hkey)

/-- Documents that tell other records than the one of a user and a day are not what is asked for. -/
theorem unsatisfied_of_others {ds : List BsonDocument}
    (h : ∀ x ∈ ds, ∃ r, Tells x r ∧ l.find r.user r.day = some r ∧
      ¬ (r.user = user ∧ r.day = day)) :
    ∀ x ∈ ds, satisfies (recordFilter user day) x = false := by
  intro x hx
  obtain ⟨r, hr, -, hne⟩ := h x hx
  rw [hr.satisfies_record, decide_eq_false hne]

/-- Where there is no record yet it is made. -/
theorem Copies.add_of_none (h : Copies ds l) {seconds : Int}
    (hfits : Signed64.Fits (l.spentOn user day + seconds)) (hrecord : l.find user day = none)
    (stamp id : Bson) :
    ∃ ds', upsert? id (recordFilter user day) (adding seconds stamp) ds = some ds' ∧
      Copies ds' (l.add user day seconds).2 := by
  have hothers : ∀ d ∈ ds, ∃ r, Tells d r ∧ l.find r.user r.day = some r ∧
      ¬ (r.user = user ∧ r.day = day) := by
    intro d hd
    obtain ⟨r, hr, hfound⟩ := h.kept d hd
    refine ⟨r, hr, hfound, ?_⟩
    rintro ⟨rfl, rfl⟩
    rw [hrecord] at hfound
    cases hfound
  obtain ⟨d, hchange, hd⟩ := exists_inserted user day seconds stamp id
  have hupsert : upsert? id (recordFilter user day) (adding seconds stamp) ds =
      some (ds ++ [d]) := by
    rw [upsert?_of_none (unsatisfied_of_others hothers), hchange]
    rfl
  refine ⟨_, hupsert, Copies.insert (by simpa using hothers) ?_ (by simpa using h.distinct) hd rfl
    rfl fun u v => ?_⟩
  · intro u v r hr _
    simpa using h.told u v r hr
  · rw [Ledger.find_add hfits, Ledger.spentOn, hrecord]
    simp

/-- The documents beside the one of a record tell other records. -/
theorem Copies.others (h : Copies (before ++ d :: after) l) (hd : Tells d r) :
    ∀ x ∈ before ++ after, ∃ r', Tells x r' ∧ l.find r'.user r'.day = some r' ∧
      ¬ (r'.user = r.user ∧ r'.day = r.day) := by
  intro x hx
  obtain ⟨r', hr', hfound⟩ := h.kept x (List.perm_middle.symm.subset (List.mem_cons_of_mem d hx))
  refine ⟨r', hr', hfound, fun hkey => ?_⟩
  have hkeys := h.distinct
  unfold Distinct at hkeys
  rw [List.map_append, List.map_cons, List.nodup_middle, List.nodup_cons, ← List.map_append]
    at hkeys
  exact hkeys.1 (List.mem_map.2 ⟨x, hx, by rw [hr'.keyOf_eq, hd.keyOf_eq, hkey.1, hkey.2]⟩)

/-- Where there is a record its document is changed. -/
theorem Copies.add_of_some (h : Copies (before ++ d :: after) l) (hd : Tells d r) {seconds : Int}
    (hfits : Signed64.Fits (l.spentOn r.user r.day + seconds))
    (hrecord : l.find r.user r.day = some r) (stamp id : Bson) :
    ∃ ds', upsert? id (recordFilter r.user r.day) (adding seconds stamp) (before ++ d :: after) =
        some ds' ∧
      Copies ds' (l.add r.user r.day seconds).2 := by
  have hothers := h.others hd
  have hspent : l.spentOn r.user r.day = r.spentSeconds := by
    rw [Ledger.spentOn, hrecord, Option.elim_some]
  have hfind := Ledger.find_add hfits
  rw [hspent] at hfits hfind
  obtain ⟨d', hchange, hd'⟩ := hd.change? hfits stamp
  have hupsert : upsert? id (recordFilter r.user r.day) (adding seconds stamp)
      (before ++ d :: after) = some (before ++ d' :: after) := by
    have hbefore := unsatisfied_of_others fun x hx => hothers x (List.mem_append_left after hx)
    rw [upsert?_of_some hbefore (by rw [hd.satisfies_record]; simp), hchange]
    rfl
  refine ⟨_, hupsert, Copies.insert hothers ?_ ?_ hd' rfl rfl fun u v => ?_⟩
  · intro u v r' hr' hne
    obtain ⟨x, hx, htells, huser, hday⟩ := h.told u v r' hr'
    rcases List.mem_cons.1 (List.perm_middle.subset hx) with rfl | hx
    · -- the document of the record tells no other one
      have hsame := hd.keyOf_eq
      rw [htells.keyOf_eq, huser, hday] at hsame
      exact absurd (by simpa using hsame) hne
    · exact ⟨x, hx, htells, huser, hday⟩
  · have hkeys := h.distinct
    unfold Distinct at hkeys ⊢
    rw [List.map_append, List.map_cons, List.nodup_middle, List.nodup_cons, ← List.map_append]
      at hkeys
    exact hkeys.2
  · rw [hfind, hrecord, Option.getD_some]

/-- The update that adds seconds is made whatever id the server chooses, and then the documents tell
the records after the seconds were added. -/
theorem Copies.add (h : Copies ds l) {seconds : Int}
    (hfits : Signed64.Fits (l.spentOn user day + seconds)) (stamp id : Bson) :
    ∃ ds', upsert? id (recordFilter user day) (adding seconds stamp) ds = some ds' ∧
      Copies ds' (l.add user day seconds).2 := by
  cases hrecord : l.find user day with
  | none => exact h.add_of_none hfits hrecord stamp id
  | some r =>
      obtain ⟨d, hd, hr, rfl, rfl⟩ := h.told user day r hrecord
      obtain ⟨before, after, rfl⟩ := List.append_of_mem hd
      exact h.add_of_some hr hfits hrecord stamp id

end Copies

/-! ## Queries for records -/

/-- The record that a document tells. -/
def recordOf (d : BsonDocument) : DailyStatistic :=
  match statistic? d with
  | .ok r => r
  | .error _ => ⟨"", "", 0, 0⟩

section Queries

variable {ds found : List BsonDocument} {d : BsonDocument} {l : Ledger} {r : DailyStatistic}
  {is : List Increment} {user day first last : String}

theorem Tells.recordOf_eq (h : Tells d r) : recordOf d = r := by
  rw [recordOf, h.statistic?_eq]

/-- A document of a collection of records tells its record. -/
theorem Copies.tells (h : Copies ds l) (hd : d ∈ ds) :
    Tells d (recordOf d) ∧ l.find (recordOf d).user (recordOf d).day = some (recordOf d) := by
  obtain ⟨r, hr, hfound⟩ := h.kept d hd
  rw [hr.recordOf_eq]
  exact ⟨hr, hfound⟩

/-- Documents are read as records, one after another. -/
theorem mapM_statistic?_eq (h : ∀ d ∈ ds, Tells d (recordOf d)) :
    ds.mapM statistic? = .ok (ds.map recordOf) := by
  induction ds with
  | nil => rfl
  | cons d ds ih =>
      rw [List.mapM_cons, (h d List.mem_cons_self).statistic?_eq,
        ih fun x hx => h x (List.mem_cons_of_mem d hx)]
      rfl

/-- Documents with the same fields are read alike. -/
theorem statistic?_eq_of_sameFields {d d' : BsonDocument} (h : SameFields d d') :
    statistic? d = statistic? d' := by
  simp only [statistic?, Bson.text?, Bson.integer?, h _]

theorem mapM_statistic?_eq_of_sameFields {ds ds' : List BsonDocument}
    (h : List.Forall₂ SameFields ds ds') : ds.mapM statistic? = ds'.mapM statistic? := by
  induction h with
  | nil => rfl
  | cons hd _ ih => rw [List.mapM_cons, List.mapM_cons, statistic?_eq_of_sameFields hd, ih]

theorem head?_statistic?_eq_of_sameFields {ds ds' : List BsonDocument}
    (h : List.Forall₂ SameFields ds ds') : ds.head?.map statistic? = ds'.head?.map statistic? := by
  cases h with
  | nil => rfl
  | cons hd _ => exact congrArg some (statistic?_eq_of_sameFields hd)

/-- The first document that is found for a user and a day tells the record. -/
theorem Copies.head?_found (h : Copies ds l)
    (hfound : Found (recordFilter user day) [] ds found) :
    found.head?.map recordOf = l.find user day ∧ ∀ d ∈ found.head?, Tells d (recordOf d) := by
  have hmem (d : BsonDocument) : d ∈ found ↔ d ∈ ds ∧ (recordOf d).user = user ∧
      (recordOf d).day = day := by
    rw [hfound.perm.mem_iff, List.mem_filter]
    refine and_congr_right fun hd => ?_
    rw [(h.tells hd).1.satisfies_record, decide_eq_true_eq]
  cases found with
  | nil =>
      refine ⟨?_, fun d hd => nomatch hd⟩
      cases hrecord : l.find user day with
      | none => rfl
      | some r =>
          obtain ⟨d, hd, hr, rfl, rfl⟩ := h.told user day r hrecord
          rw [← hr.recordOf_eq] at hmem
          exact absurd ((hmem d).2 ⟨hd, rfl, rfl⟩) List.not_mem_nil
  | cons d found =>
      obtain ⟨hd, rfl, rfl⟩ := (hmem d).1 List.mem_cons_self
      obtain ⟨htells, hrecord⟩ := h.tells hd
      refine ⟨hrecord.symm, fun x hx => ?_⟩
      obtain rfl := Option.some.inj hx
      exact htells

/-- The documents that are found for a range of days tell the records of the range, by day. -/
theorem Copies.map_found (hfits : FitThroughout is) (h : Copies ds (Ledger.ofHistory is))
    (hfound : Found (rangeFilter user first last) byDay ds found) :
    found.map recordOf = (Ledger.ofHistory is).range user first last ∧
      ∀ d ∈ found, Tells d (recordOf d) := by
  have hmem (d : BsonDocument) : d ∈ found ↔ d ∈ ds ∧ (recordOf d).user = user ∧
      Text.isBetween first last (recordOf d).day = true := by
    rw [hfound.perm.mem_iff, List.mem_filter]
    refine and_congr_right fun hd => ?_
    rw [(h.tells hd).1.satisfies_range, Bool.and_eq_true, decide_eq_true_eq]
  have htells (d : BsonDocument) (hd : d ∈ found) : Tells d (recordOf d) :=
    (h.tells ((hmem d).1 hd).1).1
  refine ⟨?_, htells⟩
  let before (a b : DailyStatistic) : Prop := Text.octets a.day < Text.octets b.day
  have : Std.Irrefl before := ⟨fun _ => lt_irrefl _⟩
  have : Std.Antisymm before := ⟨fun _ _ hlt hgt => absurd hlt (lt_asymm hgt)⟩
  -- both lists are in the order of days, and they have the same records
  refine List.Pairwise.eq_of_mem_iff (r := before) ?_ (Ledger.range_pairwise hfits) fun r => ?_
  · have hnodup : found.Nodup :=
      (hfound.perm.nodup_iff.2 ((List.Nodup.of_map _ h.distinct).filter _))
    rw [List.pairwise_map]
    refine ((hfound.sorted "createdDate" rfl).and hnodup).imp_of_mem ?_
    rintro a b ha hb ⟨hle, hne⟩
    obtain ⟨hads, hauser, -⟩ := (hmem a).1 ha
    obtain ⟨hbds, hbuser, -⟩ := (hmem b).1 hb
    refine lt_of_le_of_ne (hle _ _ (htells a ha).text_day (htells b hb).text_day) fun heq => hne ?_
    exact h.eq_of_tells hads hbds (htells a ha) (htells b hb) (hauser.trans hbuser.symm)
      (Text.octets_inj.1 heq)
  · rw [Ledger.mem_range_iff hfits, List.mem_map]
    constructor
    · rintro ⟨d, hd, rfl⟩
      obtain ⟨hds, huser, hday⟩ := (hmem d).1 hd
      exact ⟨huser, hday, (h.tells hds).2⟩
    · rintro ⟨huser, hday, hfind⟩
      obtain ⟨d, hd, hr, -, -⟩ := h.told _ _ r hfind
      obtain rfl := hr.recordOf_eq
      exact ⟨d, (hmem d).2 ⟨hd, huser, hday⟩, rfl⟩

end Queries

/-! ## Runs -/

section Server

variable {σ : Type} {c : MongoCollection} {asked made : BsonDocument → BsonDocument → Prop}
  {serve : Instant → (call : RemoteCall) → σ → Outcome call.Reply × σ}
  {stands : σ → List BsonDocument → Prop}
  {owes : Instant → σ → Int → Nat → List BsonDocument → Prop} {s : σ}
  {ds : List BsonDocument} {is : List Increment}

/-- A call of the daily statistics in MongoDB comes back as from memory, where some additions were
made before, and leaves a collection with the additions that the call makes. -/
def LedgerStep (serve : Instant → (call : RemoteCall) → σ → Outcome call.Reply × σ)
    (stands : σ → List BsonDocument → Prop) (c : MongoCollection) (now : Instant)
    (call : LedgerCall) (is : List Increment) (s : σ) : Prop :=
  ∃ s' ds', Program.run (serve now) (ledger c call) s =
      (((Ledger.ofHistory is).serve call).1, s') ∧
    ((Ledger.ofHistory is).serve call).1.isOk = true ∧
    stands s' ds' ∧ Copies ds' (Ledger.ofHistory (is ++ (Ledger.addition? call).toList))

section Steps

variable (now : Instant) (h : Answers c recordFields asked made serve stands owes)
  (hs : stands s ds) (hm : Copies ds (Ledger.ofHistory is))

include h hs hm

theorem run_add {user day : String} {seconds : Int}
    (hmade : ∀ stamp, made (recordFilter user day) (adding seconds (.date stamp)))
    (hfits : FitThroughout (is ++ [⟨user, day, seconds⟩])) :
    LedgerStep serve stands c now (.add user day seconds) is s := by
  have hsum := Ledger.fits_add hfits
  obtain ⟨stamp, s₁, hstamp, hs₁⟩ := h.stamps now hs
  have hupdate := hm.add hsum (.date stamp)
  obtain ⟨id, ds', s', hupsert, hserve, hs'⟩ := h.updates now (hmade stamp) hs₁ fun id => by
    obtain ⟨ds', hupsert, hm'⟩ := hupdate id
    exact ⟨ds', hupsert, hm'.distinct⟩
  obtain ⟨_, hupsert', hm'⟩ := hupdate id
  cases hupsert.symm.trans hupsert'
  have hserved : ((Ledger.ofHistory is).serve (.add user day seconds)).1 = .ok () := by
    rw [Ledger.serve, Ledger.add_of_fits _ _ _ _ hsum]
  refine ⟨s', ds', ?_, by rw [hserved]; rfl, hs', ?_⟩
  · have hrun₁ : Program.run (serve now) (RemoteOperation.of .stamp) s = (.ok stamp, s₁) := hstamp
    have hrun₂ : Program.run (serve now) (RemoteOperation.mongo (.update c
        (recordFilter user day) (adding seconds (.date stamp)))) s₁ = (.ok .done, s') := hserve
    rw [hserved, ledger, Program.run_bind, hrun₁]
    show Program.run (serve now) (RemoteOperation.mongo (.update c (recordFilter user day)
      (adding seconds (.date stamp))) >>= _) s₁ = _
    rw [Program.run_bind, hrun₂]
    rfl
  · show Copies ds' (Ledger.ofHistory (is ++ [⟨user, day, seconds⟩]))
    rw [Ledger.ofHistory_concat]
    exact hm'

theorem run_findRecord {user day : String} (hasked : asked (recordFilter user day) []) :
    LedgerStep serve stands c now (.find user day) is s := by
  obtain ⟨got, all, found, s', hrun, hs', hfound, hsame, -, hhead⟩ := h.run_find now hasked true
    "failed to load daily statistic" "failed to load daily statistic" hs
  obtain ⟨hrecord, htells⟩ := hm.head?_found hfound
  refine ⟨s', ds, ?_, rfl, hs', by simpa [Ledger.addition?] using hm⟩
  show Program.run (serve now) (find c { filter := recordFilter user day } true _ _ >>= _) s = _
  rw [Program.run_bind, hrun, Ledger.serve, ← hrecord]
  have hread := head?_statistic?_eq_of_sameFields hsame
  rw [← hhead] at hread
  cases hgot : got.head? with
  | none =>
      rw [hgot, Option.map_none, eq_comm, Option.map_eq_none_iff] at hread
      simp only [hgot, hread]
      rfl
  | some d =>
      rw [hgot, Option.map_some, eq_comm, Option.map_eq_some_iff] at hread
      obtain ⟨d', hd', heq⟩ := hread
      simp only [hgot, hd']
      rw [← heq, (htells d' hd').statistic?_eq]
      rfl

theorem run_rangeOfDays {user first last : String}
    (hasked : asked (rangeFilter user first last) byDay) (hfits : FitThroughout is) :
    LedgerStep serve stands c now (.range user first last) is s := by
  obtain ⟨got, all, found, s', hrun, hs', hfound, hsame, hall, -⟩ := h.run_find now hasked false
    "failed to query daily statistics" "failed to read daily statistics cursor" hs
  obtain rfl := hall rfl
  obtain ⟨hrecords, htells⟩ := hm.map_found hfits hfound
  refine ⟨s', ds, ?_, rfl, hs', by simpa [Ledger.addition?] using hm⟩
  show Program.run (serve now) (find c
    { filter := rangeFilter user first last, sort := byDay } false _ _ >>= _) s = _
  rw [Program.run_bind, hrun, Ledger.serve, ← hrecords]
  dsimp only
  rw [mapM_statistic?_eq_of_sameFields hsame, mapM_statistic?_eq htells]
  rfl

/-- Each call of the daily statistics in MongoDB is answered as in memory, while the sums of seconds
fit. -/
theorem run_ledger {call : LedgerCall}
    (hasked : ∀ filter sort, Asks call filter sort → asked filter sort)
    (hmade : ∀ filter operators, Makes call filter operators → made filter operators)
    (hfits : FitThroughout (is ++ (Ledger.addition? call).toList)) :
    LedgerStep serve stands c now call is s := by
  cases call with
  | add user day seconds =>
      exact run_add now h hs hm (fun stamp => hmade _ _ (.add user day seconds stamp)) hfits
  | find user day => exact run_findRecord now h hs hm (hasked _ _ (.find user day))
  | range user first last =>
      exact run_rangeOfDays now h hs hm (hasked _ _ (.range user first last))
        (by simpa [Ledger.addition?] using hfits)

end Steps

/-- The replies of the daily statistics in MongoDB to the calls of a run, one after another. -/
abbrev ledgerReplies (serve : Instant → (call : RemoteCall) → σ → Outcome call.Reply × σ)
    (c : MongoCollection) (visits : List (Visit LedgerCall)) (s : σ) :
    List (Σ call : LedgerCall, Outcome call.Reply) :=
  Visit.answers (fun t call s => Program.run (serve t) (ledger c call) s) visits s

theorem ledgerReplies_eq (h : Answers c recordFields asked made serve stands owes)
    {visits : List (Visit LedgerCall)}
    (hasked : ∀ v ∈ visits, ∀ filter sort, Asks v.call filter sort → asked filter sort)
    (hmade : ∀ v ∈ visits, ∀ filter operators, Makes v.call filter operators →
      made filter operators)
    (hs : stands s ds) (hm : Copies ds (Ledger.ofHistory is))
    (hfits : FitThroughout (is ++ Ledger.additions visits)) :
    ledgerReplies serve c visits s = Ledger.replies visits (Ledger.ofHistory is) ∧
      ∀ r ∈ Ledger.replies visits (Ledger.ofHistory is), r.2.isOk = true := by
  -- the induction is on the calls; what was added before them is in the history
  induction visits generalizing s ds is with
  | nil => exact ⟨rfl, fun _ hr => nomatch hr⟩
  | cons v rest ih =>
      have hsplit : is ++ Ledger.additions (v :: rest) =
          (is ++ (Ledger.addition? v.call).toList) ++ Ledger.additions rest := by
        rw [Ledger.additions, List.filterMap_cons]
        cases Ledger.addition? v.call <;> simp [Ledger.additions]
      rw [hsplit] at hfits
      obtain ⟨s', ds', hrun, hok, hs', hm'⟩ :=
        run_ledger v.time h hs hm (hasked v List.mem_cons_self) (hmade v List.mem_cons_self)
          (hfits.of_prefix (List.prefix_append _ _))
      obtain ⟨htail, hrest⟩ := ih (fun u hu => hasked u (List.mem_cons_of_mem _ hu))
        (fun u hu => hmade u (List.mem_cons_of_mem _ hu)) hs' hm' hfits
      have hnext : ((Ledger.ofHistory is).serve v.call).2 =
          Ledger.ofHistory (is ++ (Ledger.addition? v.call).toList) := by
        cases v.call with
        | add user day seconds =>
            show _ = Ledger.ofHistory (is ++ [⟨user, day, seconds⟩])
            rw [Ledger.ofHistory_concat]
            rfl
        | find user day => simp [Ledger.serve, Ledger.addition?]
        | range user first last => simp [Ledger.serve, Ledger.addition?]
      simp only [ledgerReplies, Ledger.replies, Visit.answers, hrun, hnext]
      refine ⟨congrArg _ htail, fun r hr => ?_⟩
      rcases List.mem_cons.1 hr with rfl | hr
      · exact hok
      · exact hrest r hr

/-- Where nothing was recorded before, every call of a run is answered, and by MongoDB as in memory,
if the server answers the queries and updates of that run as it is documented. -/
theorem ledger_agrees {visits : List (Visit LedgerCall)}
    (h : Answers c recordFields (fun filter sort => ∃ v ∈ visits, Asks v.call filter sort)
      (fun filter operators => ∃ v ∈ visits, Makes v.call filter operators) serve stands owes)
    (hs : stands s []) (hfits : FitThroughout (Ledger.additions visits)) :
    ledgerReplies serve c visits s = Ledger.replies visits {} ∧
      ∀ r ∈ Ledger.replies visits {}, r.2.isOk = true :=
  have hm : Copies [] (Ledger.ofHistory []) := Copies.empty
  ledgerReplies_eq h (fun v hv _ _ ha => ⟨v, hv, ha⟩) (fun v hv _ _ ha => ⟨v, hv, ha⟩) hs hm hfits

end Server

/-- The queries of a call name directions to sort by. -/
theorem Asks.isSort {call : LedgerCall} {filter sort : BsonDocument} (h : Asks call filter sort) :
    LoneCollection.isSort sort = true := by
  cases h <;> rfl

/-- The updates of a call change no field twice. -/
theorem Makes.conflict?_eq {call : LedgerCall} {filter operators : BsonDocument}
    (h : Makes call filter operators) :
    LoneCollection.conflict? (LoneCollection.fieldsOf operators) = none := by
  cases h
  rfl

/-- Seconds are added to three records, first none at all to one of them and later some that are
taken away again; the records of a user are asked for with the days in either order. -/
def mixedAdditions : List (Visit LedgerCall) :=
  [⟨Clock.noon, .add "ada" "20261019" 0⟩, ⟨Clock.noon, .add "bob" "20261018" 7⟩,
    ⟨Clock.noon, .add "ada" "20261018" 30⟩, ⟨Clock.noon, .add "ada" "20261019" (-5)⟩,
    ⟨Clock.noon, .find "ada" "20261019"⟩, ⟨Clock.noon, .find "bob" "20261019"⟩,
    ⟨Clock.noon, .range "ada" "20261018" "20261020"⟩,
    ⟨Clock.noon, .range "ada" "20261020" "20261018"⟩]

/-- The collection of the daily statistics under its usual names. -/
def dailyStatistics : MongoCollection := ⟨"flare_social", "daily_statistics"⟩

theorem ledger_agrees_mixedAdditions :
    ledgerReplies (LoneCollection.serve dailyStatistics recordFields) dailyStatistics mixedAdditions
        {} =
      [⟨.add "ada" "20261019" 0, .ok ()⟩, ⟨.add "bob" "20261018" 7, .ok ()⟩,
        ⟨.add "ada" "20261018" 30, .ok ()⟩, ⟨.add "ada" "20261019" (-5), .ok ()⟩,
        ⟨.find "ada" "20261019", .ok (some ⟨"ada", "20261019", -5, 0⟩)⟩,
        ⟨.find "bob" "20261019", .ok none⟩,
        ⟨.range "ada" "20261018" "20261020",
          .ok [⟨"ada", "20261018", 30, 0⟩, ⟨"ada", "20261019", -5, 0⟩]⟩,
        ⟨.range "ada" "20261020" "20261018", .ok []⟩] := by
  have hfits : FitThroughout (Ledger.additions mixedAdditions) := .of_small (by decide)
  have hasked : ∀ filter sort, (∃ v ∈ mixedAdditions, Asks v.call filter sort) →
      LoneCollection.isSort sort = true := fun _ _ ⟨_, _, ha⟩ => ha.isSort
  have hmade : ∀ filter operators, (∃ v ∈ mixedAdditions, Makes v.call filter operators) →
      LoneCollection.conflict? (LoneCollection.fieldsOf operators) = none :=
    fun _ _ ⟨_, _, ha⟩ => ha.conflict?_eq
  have hserve := LoneCollection.answers_serve dailyStatistics recordFields hasked hmade
  rw [(ledger_agrees hserve rfl hfits).1]
  rfl

end Remote

end Presence
