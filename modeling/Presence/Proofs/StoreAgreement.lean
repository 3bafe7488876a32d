import Presence.Clock
import Presence.Proofs.Keyspace
import Presence.Store

/-!
# The presence store in memory and the presence store in Redis

Scores are integers in memory and floating point numbers in Redis, and texts carry the last instant
at which they can be read on both sides. Main statement: `Remote.store_agrees`, from empty stores
every call of a run comes back alike from both, as long as the scores stay whole and no text is to
last beyond the calendar. Of the server only the commands of that run are asked, one for each call
(`Remote.storeCommand`).
-/

set_option autoImplicit false

namespace Presence

open Binary64

namespace Table

theorem find?_map {β γ : Type} (f : β → γ) (k : String) (l : List (String × β)) :
    find? k (l.map fun p => (p.1, f p.2)) = (find? k l).map f := by
  induction l with
  | nil => rfl
  | cons p l ih =>
      simp only [List.map_cons, find?, ih]
      split <;> rfl

/-- The table with a function applied to every value. -/
def mapValues {β γ : Type} (f : β → γ) (t : Table String β) : Table String γ :=
  ⟨t.entries.map fun p => (p.1, f p.2), by
    rw [List.pairwise_map]
    exact t.ascending⟩

variable {β γ : Type} (f : β → γ) (t : Table String β) (k : String)

theorem get?_mapValues : (t.mapValues f).get? k = (t.get? k).map f := find?_map f k t.entries

theorem mapValues_set (v : β) : (t.set k v).mapValues f = (t.mapValues f).set k (f v) := by
  apply ext_get?
  intro k'
  rw [get?_mapValues, get?_set, get?_set, get?_mapValues]
  split <;> rfl

theorem mapValues_erase : (t.erase k).mapValues f = (t.mapValues f).erase k := by
  apply ext_get?
  intro k'
  rw [get?_mapValues, get?_erase, get?_erase, get?_mapValues]
  split <;> rfl

end Table

namespace Store

theorem members_removeMember (s : Store) (set member set' : String) :
    (s.removeMember set member).members set' =
      if set' = set then (s.members set).erase member else s.members set' := by
  apply Table.ext_get?
  intro k
  cases h : s.sets.get? set with
  | none =>
      have hnone : s.removeMember set member = s := by rw [removeMember, h]
      rw [hnone]
      split
      · next heq => simp [members, Table.getD, heq, h, Table.get?_erase]
      · rfl
  | some ms =>
      rw [removeMember, h]
      by_cases heq : set' = set
      · simp [members, Table.getD, heq, h]
      · simp [members, Table.getD, heq, Table.get?_set_of_ne _ _ heq]

theorem strings_removeMember (s : Store) (set member : String) :
    (s.removeMember set member).strings = s.strings := by
  rw [removeMember]
  split <;> rfl

/-- The calls at hand keep texts and sets apart, and scores whole: `IsSet` tells the keys of
sets. -/
def InDomain (IsSet : String → Prop) : StoreCall → Store → Prop
  | .getString key, _ => ¬ IsSet key
  | .setString key _ ttl, _ => ¬ IsSet key ∧ ∀ n ∈ ttl, 1 ≤ n ∧ n ≤ 1000000000
  | .getScore set _, _ => IsSet set
  | .setScore set _ value, _ => IsSet set ∧ IsWhole value
  | .incrScore set member delta, s =>
    IsSet set ∧ IsWhole delta ∧ IsWhole (s.getScore set member + delta)
  | .rangeByScore set low high, _ => IsSet set ∧ IsWhole low ∧ ∀ h ∈ high, IsWhole h
  | .removeMember set _, _ => IsSet set

/-- All calls of a run do. -/
def RunsInDomain (IsSet : String → Prop) : List (Visit StoreCall) → Store → Prop
  | [], _ => True
  | v :: rest, s => InDomain IsSet v.call s ∧ RunsInDomain IsSet rest (serve v.time v.call s).2

/-- No text is to last beyond the calendar. -/
def InCalendar (v : Visit StoreCall) : Prop :=
  ∀ key value n, v.call = .setString key value (some n) →
    v.time.millis + 1000 * n ≤ 8210266876799999

/-- The replies to the calls of a run, one after another. -/
abbrev replies (visits : List (Visit StoreCall)) (s : Store) :
    List (Σ c : StoreCall, Outcome c.Reply) :=
  Visit.answers serve visits s

theorem setString_of_le (s : Store) (now : Instant) (key value : String) {n : Nat}
    (h : n ≤ 1000000000) (hcalendar : now.millis + 1000 * n ≤ 8210266876799999) :
    ∃ t, t.millis = now.millis + 1000 * n ∧ s.setString now key value (some n) =
      (.ok (), { s with strings := s.strings.set key ⟨value, some t⟩ }) := by
  have hlow := now.inRange.1
  have hrange : -8334601228800000 ≤ now.millis + 1000 * (n : Int) ∧
      now.millis + 1000 * (n : Int) ≤ 8210266876799999 := ⟨by omega, hcalendar⟩
  have hsigned : Signed64.ofUnsigned n = n := by
    rw [Signed64.ofUnsigned, if_pos (by simp only [Signed64.greatest]; omega)]
  have hafter : now.after n = .ok ⟨_, hrange⟩ := by
    have hspan : (n : Int).natAbs ≤ Instant.longestSpan.natAbs := by
      simp only [Instant.longestSpan]
      omega
    rw [Instant.after, if_pos hspan, Instant.ofMillis?, dif_pos hrange]
    rfl
  exact ⟨⟨_, hrange⟩, rfl, by simp [setString, hsigned, hafter]⟩

end Store

namespace Keyspace

/-! ## The commands on texts and sets -/

section Sets

variable {k : Keyspace} {set : String} {members : Table String Binary64}

theorem answer_score (spell : Binary64 → String) (now : Int) (member : String)
    (h : k set = scoresOf members) :
    answer spell now (RedisCommand.score set member).words k =
      ((members.get? member).elim .nothing fun x => .text (spell x), k) := by
  show score spell now [set, member] k = _
  rw [score, withScores_of_eq h]
  cases members.get? member <;> rfl

theorem answer_setScore (spell : Binary64 → String) (now : Int) (member : String) {n : Int}
    (hn : IsWhole n) (h : k set = scoresOf members) :
    answer spell now (RedisCommand.setScore set member n).words k =
      (.integer (if (members.get? member).isNone then 1 else 0),
        k.put set (scoresOf (members.set member (.ofInt n)))) := by
  show setScore now [set, toString n, member] k = _
  rw [setScore, withScore_of_eq hn (Text.readFloat?_toString hn), withScores_of_eq h]

theorem answer_addScore (spell : Binary64 → String) (now : Int) (member : String) {n m : Int}
    (hn : IsWhole n) (hm : IsWhole m) (hsum : IsWhole (m + n))
    (hmember : members.getD member (.ofInt 0) = .ofInt m) (h : k set = scoresOf members) :
    answer spell now (RedisCommand.addScore set member n).words k =
      (.text (spell (.ofInt (m + n))),
        k.put set (scoresOf (members.set member (.ofInt (m + n))))) := by
  show addScore spell now [set, toString n, member] k = _
  obtain ⟨mantissa, e, hof, -, -⟩ := ofInt_eq_finite hsum
  rw [addScore, withScore_of_eq hn (Text.readFloat?_toString hn), withScores_of_eq h, hmember,
    plus_ofInt hm hn, hof]

theorem answer_removeMember (spell : Binary64 → String) (now : Int) (member : String)
    (h : k set = scoresOf members) :
    answer spell now (RedisCommand.removeMember set member).words k =
      (.integer (if (members.get? member).isNone then 0 else 1),
        k.put set (scoresOf (members.erase member))) := by
  show removeMember now [set, member] k = _
  rw [removeMember, withScores_of_eq h]

theorem bound?_toString {n : Int} (hn : IsWhole n) :
    bound? (toString n) = some (false, .ofInt n) := by
  have hread := Text.readFloat?_toString hn
  have hopen : '(' ∉ (toString n).toList := by
    have hdigits : '(' ∉ Nat.toDigits 10 n.natAbs := fun h =>
      absurd (Text.isDigit_of_mem_toDigits h) (by decide)
    rw [Text.toList_toString]
    split <;> simp [hdigits]
  rw [bound?]
  split
  · next cs hcs => exact absurd (hcs ▸ List.mem_cons_self) hopen
  · rw [hread]
    rfl

theorem bound?_open {n : Int} (hn : IsWhole n) :
    bound? ("(" ++ toString n) = some (true, .ofInt n) := by
  have hlist : ("(" ++ toString n).toList = '(' :: (toString n).toList := by
    rw [String.toList_append]
    rfl
  rw [bound?, hlist]
  show (Text.readFloat? (String.ofList (toString n).toList)).map _ = _
  rw [String.ofList_toList, Text.readFloat?_toString hn]
  rfl

theorem bound?_inf : bound? "+inf" = some (false, .infinite false) := by decide

theorem answer_membersBetween (spell : Binary64 → String) (now : Int) {low : Int}
    {high : Option Int} (hlow : IsWhole low) (hhigh : ∀ h ∈ high, IsWhole h)
    (h : k set = scoresOf members) :
    answer spell now (RedisCommand.membersBetween set low high).words k =
      (.list (((members.entries.filter fun p =>
        isAbove (false, .ofInt low) p.2 && isBelow (high.elim (false, .infinite false) fun h =>
          (true, .ofInt h)) p.2).mergeSort comesFirst).map (·.1)), k) := by
  cases high with
  | none =>
      show membersBetween now [set, toString low, "+inf"] k = _
      simp only [membersBetween, bound?_toString hlow, bound?_inf, withScores_of_eq h]
      rfl
  | some high =>
      show membersBetween now [set, toString low, "(" ++ toString high] k = _
      simp only [membersBetween, bound?_toString hlow, bound?_open (hhigh high rfl),
        withScores_of_eq h]
      rfl

end Sets

theorem answer_set (spell : Binary64 → String) (now : Int) (key value : String) {k : Keyspace} :
    answer spell now (RedisCommand.put key value none).words k =
      (.done, k.put key (some (.text value none))) := rfl

theorem answer_setFor (spell : Binary64 → String) (now : Instant) (key value : String) {n : Nat}
    (hlow : 1 ≤ n) (hhigh : n ≤ 1000000000) {k : Keyspace} :
    answer spell now.millis (RedisCommand.put key value (some n)).words k =
      (.done, k.put key (some (.text value (some (now.millis + 1000 * n))))) := by
  have hfits : Signed64.Fits n := by
    simp only [Signed64.Fits, Signed64.least, Signed64.greatest]
    omega
  have htext : toString n = toString (n : Int) := rfl
  have hread : Text.readSigned64? (toString n) = some (n : Int) := by
    rw [htext, Text.readSigned64?_toString hfits]
  have hlifetime : IsLifetime now.millis n := by
    have hlast := now.inRange.2
    simp only [IsLifetime, Signed64.greatest]
    omega
  show setFor now.millis [key, toString n, value] k = _
  simp only [setFor, hread, if_pos hlifetime]

theorem answer_get (spell : Binary64 → String) (now : Instant) (key : String) {k : Keyspace}
    {s : Store} (h : k key = (s.strings.get? key).map fun e =>
      .text e.value (e.expires.map Instant.millis)) :
    answer spell now.millis (RedisCommand.get key).words k =
      ((s.getString now key).elim .nothing .text, k) := by
  show get now.millis [key] k = _
  cases he : s.strings.get? key with
  | none => simp [get, at?, h, he, Store.getString]
  | some e =>
      have hlasts : Keyed.lasts now.millis (.text e.value (e.expires.map Instant.millis)) =
          Store.StoredText.isAlive e now := by
        cases hexpires : e.expires with
        | none => simp [Keyed.lasts, Store.StoredText.isAlive, hexpires]
        | some last =>
            simp only [Keyed.lasts, Store.StoredText.isAlive, hexpires, Option.map_some]
            rfl
      cases halive : Store.StoredText.isAlive e now <;>
        simp [get, at?, h, he, Store.getString, Option.filter, hlasts, halive]

end Keyspace

namespace Remote

/-- The command of a call of the presence store. -/
def storeCommand : StoreCall → RedisCommand
  | .getString key => .get key
  | .setString key value ttl => .put key value ttl
  | .getScore set member => .score set member
  | .setScore set member value => .setScore set member value
  | .incrScore set member delta => .addScore set member delta
  | .rangeByScore set low high => .membersBetween set low high
  | .removeMember set member => .removeMember set member

open Keyspace

/-- The content of a server is that of a store in memory: texts at the keys of texts, and at the
keys of sets the members with the same scores, all of them whole. -/
structure Mirrors (IsSet : String → Prop) (k : Keyspace) (s : Store) : Prop where
  texts : ∀ key, ¬ IsSet key → k key = (s.strings.get? key).map fun e =>
    .text e.value (e.expires.map Instant.millis)
  sets : ∀ set, IsSet set → k set = scoresOf ((s.members set).mapValues ofInt)
  whole : ∀ set member n, (s.members set).get? member = some n → IsWhole n

/-- Both stores put members in the same order. -/
theorem before_eq_comesFirst {a b : String × Int} (ha : IsWhole a.2) (hb : IsWhole b.2) :
    Store.before a b = comesFirst (a.1, ofInt a.2) (b.1, ofInt b.2) := by
  rw [Store.before, comesFirst, less_ofInt ha hb, less_ofInt hb ha, Text.isLE_compare_iff]
  by_cases hlt : a.2 < b.2
  · simp [hlt]
  · by_cases hgt : b.2 < a.2
    · simp [hlt, hgt, Int.ne_of_gt hgt]
    · have heq : a.2 = b.2 := Int.le_antisymm (Int.not_lt.1 hgt) (Int.not_lt.1 hlt)
      simp [heq]

/-- The way through floating point numbers changes neither which members are let in nor their
order. -/
theorem names_between_eq {entries : List (String × Int)} (hwhole : ∀ p ∈ entries, IsWhole p.2)
    {keep : String × Binary64 → Bool} {keep' : String × Int → Bool}
    (hkeep : ∀ p ∈ entries, keep (p.1, ofInt p.2) = keep' p) :
    (((entries.map fun p => (p.1, ofInt p.2)).filter keep).mergeSort comesFirst).map (·.1) =
      ((entries.filter keep').mergeSort Store.before).map (·.1) := by
  have hfilter : entries.filter (keep ∘ fun p => (p.1, ofInt p.2)) = entries.filter keep' :=
    List.filter_congr hkeep
  rw [List.filter_map, hfilter, ← List.map_mergeSort, List.map_map]
  · rfl
  · intro a ha b hb
    exact before_eq_comesFirst (hwhole a (List.mem_filter.1 ha).1)
      (hwhole b (List.mem_filter.1 hb).1)

theorem Mirrors.empty (IsSet : String → Prop) : Mirrors IsSet .empty {} where
  texts _ _ := rfl
  sets _ _ := rfl
  whole _ _ _ h := absurd h (by simp [Store.members, Table.getD])

section Server

variable {σ : Type} {spell : Binary64 → String} {sent : RedisCommand → Prop}
  {serve : Instant → (c : RemoteCall) → σ → Outcome c.Reply × σ}
  {stands : Instant → σ → Keyspace → Prop} {IsSet : String → Prop} {t now : Instant} {s : σ}
  {k : Keyspace} {m : Store}

/-- Both stores find the same members between two bounds, in the same order. -/
theorem Mirrors.range_eq (h : Mirrors IsSet k m) {low : Int} {high : Option Int}
    (hlow : IsWhole low) (hhigh : ∀ h ∈ high, IsWhole h) (set : String) :
    (((((m.members set).mapValues ofInt).entries.filter fun p =>
      isAbove (false, ofInt low) p.2 && isBelow (high.elim (false, .infinite false) fun h =>
        (true, ofInt h)) p.2).mergeSort comesFirst).map (·.1)) = m.rangeByScore set low high := by
  have hwhole : ∀ p ∈ (m.members set).entries, IsWhole p.2 := fun p hp =>
    h.whole set p.1 p.2 (Table.get?_eq_some_iff.2 hp)
  have habove : ∀ n, IsWhole n → isAbove (false, ofInt low) (ofInt n) = decide (low ≤ n) := by
    intro n hn
    simp [isAbove, less_ofInt hn hlow, ← decide_not]
  refine names_between_eq hwhole fun p hp => ?_
  have hp := hwhole p hp
  cases high with
  | none => simp [isBelow, habove p.2 hp, (ofInt_less_infinite hp).1]
  | some high => simp [isBelow, habove p.2 hp, less_ofInt hp (hhigh high rfl)]

/-- A member gets the same whole score on both sides. -/
theorem Mirrors.setScore (h : Mirrors IsSet k m) {set : String} (hset : IsSet set) (member : String)
    {n : Int} (hn : IsWhole n) :
    Mirrors IsSet (k.put set (scoresOf (((m.members set).mapValues ofInt).set member (ofInt n))))
      (m.setScore set member n) where
  texts key hkey := by
    rw [put_of_ne _ _ fun heq : key = set => hkey (heq ▸ hset)]
    exact h.texts key hkey
  sets set' hset' := by
    rw [Store.members_setScore]
    split
    · next heq => rw [heq, put_self, Table.mapValues_set]
    · next hne => rw [put_of_ne _ _ hne, h.sets set' hset']
  whole set' member' n' hget := by
    rw [Store.members_setScore] at hget
    split at hget
    · by_cases heq : member' = member
      · rw [heq, Table.get?_set_self] at hget
        exact Option.some.inj hget ▸ hn
      · rw [Table.get?_set_of_ne _ _ heq] at hget
        exact h.whole set member' n' hget
    · exact h.whole set' member' n' hget

theorem Mirrors.whole_getScore (h : Mirrors IsSet k m) (set member : String) :
    IsWhole (m.getScore set member) := by
  rw [Store.getScore, Table.getD]
  cases hget : (m.members set).get? member with
  | none => exact (by decide : IsWhole 0)
  | some n => exact h.whole set member n hget

theorem Mirrors.removeMember (h : Mirrors IsSet k m) {set : String} (hset : IsSet set)
    (member : String) :
    Mirrors IsSet (k.put set (scoresOf (((m.members set).mapValues ofInt).erase member)))
      (m.removeMember set member) where
  texts key hkey := by
    rw [put_of_ne _ _ fun heq : key = set => hkey (heq ▸ hset), h.texts key hkey,
      Store.strings_removeMember]
  sets set' hset' := by
    rw [Store.members_removeMember]
    split
    · next heq => rw [heq, put_self, Table.mapValues_erase]
    · next hne => rw [put_of_ne _ _ hne, h.sets set' hset']
  whole set' member' n' hget := by
    rw [Store.members_removeMember] at hget
    split at hget
    · rw [Table.get?_erase] at hget
      split at hget
      · cases hget
      · exact h.whole set member' n' hget
    · exact h.whole set' member' n' hget

theorem Mirrors.setText (h : Mirrors IsSet k m) {key : String} (hkey : ¬ IsSet key) (value : String)
    (expires : Option Instant) :
    Mirrors IsSet (k.put key (some (.text value (expires.map Instant.millis))))
      { m with strings := m.strings.set key ⟨value, expires⟩ } where
  texts key' hkey' := by
    by_cases heq : key' = key
    · simp [heq]
    · rw [put_of_ne _ _ heq, h.texts key' hkey', Table.get?_set_of_ne _ _ heq]
  sets set hset := by
    rw [put_of_ne _ _ fun heq : set = key => hkey (heq ▸ hset)]
    exact h.sets set hset
  whole := h.whole

/-- A call of the presence store in Redis comes back as from memory, and both stores are alike
afterwards. -/
def StoreStep (serve : Instant → (c : RemoteCall) → σ → Outcome c.Reply × σ)
    (stands : Instant → σ → Keyspace → Prop) (IsSet : String → Prop) (now : Instant) (c : StoreCall)
    (s : σ) (m : Store) : Prop :=
  ∃ s' k', Program.run (serve now) (store c) s = ((m.serve now c).1, s') ∧
    stands now s' k' ∧ Mirrors IsSet k' (m.serve now c).2

theorem asFloat_spell (hspell : SpellsWhole spell) {n : Int} (hn : IsWhole n) :
    (RedisReply.text (spell (ofInt n))).asFloat = .ok (ofInt n) := by
  simp [RedisReply.asFloat, hspell n hn]

section Steps

variable (h : Answers spell sent serve stands) (hs : stands t s k) (ht : t ≤ now)
  (hm : Mirrors IsSet k m)

include h hs ht hm

theorem run_getString {key : String} (hsent : sent (.get key)) (hkey : ¬ IsSet key) :
    StoreStep serve stands IsSet now (.getString key) s m := by
  obtain ⟨s', hs', hrun⟩ := h.run_bind hs ht hsent (answer_get spell now key (hm.texts key hkey)) _
  refine ⟨s', k, hrun.trans ?_, hs', hm⟩
  rw [Store.serve]
  cases m.getString now key <;> rfl

theorem run_setString {key value : String} {ttl : Option Nat}
    (hsent : sent (.put key value ttl)) (hkey : ¬ IsSet key)
    (httl : ∀ n ∈ ttl, 1 ≤ n ∧ n ≤ 1000000000)
    (hcalendar : Store.InCalendar ⟨now, .setString key value ttl⟩) :
    StoreStep serve stands IsSet now (.setString key value ttl) s m := by
  cases ttl with
  | none =>
      obtain ⟨s', hs', hrun⟩ := h.run_bind hs ht hsent (answer_set spell now.millis key value) _
      exact ⟨s', _, hrun, hs', hm.setText hkey value none⟩
  | some n =>
      obtain ⟨hlow, hhigh⟩ := httl n rfl
      obtain ⟨last, hlast, hset⟩ :=
        m.setString_of_le now key value hhigh (hcalendar key value n rfl)
      obtain ⟨s', hs', hrun⟩ := h.run_bind hs ht hsent
        (answer_setFor spell now key value hlow hhigh) _
      rw [← hlast] at hs'
      rw [StoreStep, Store.serve, hset]
      exact ⟨s', _, hrun, hs', hm.setText hkey value (some last)⟩

theorem run_getScore (hspell : SpellsWhole spell) {set member : String}
    (hsent : sent (.score set member)) (hset : IsSet set) :
    StoreStep serve stands IsSet now (.getScore set member) s m := by
  obtain ⟨s', hs', hrun⟩ := h.run_bind hs ht hsent
    (answer_score spell now.millis member (hm.sets set hset)) _
  refine ⟨s', k, hrun.trans ?_, hs', hm⟩
  rw [Table.get?_mapValues, Store.serve, Store.getScore, Table.getD]
  cases hget : (m.members set).get? member with
  | none => rfl
  | some n =>
      have hn := hm.whole set member n hget
      have hread : (RedisReply.text (spell (ofInt n))).asFloatOrNothing = .ok (some (ofInt n)) :=
        congrArg (Except.map some) (asFloat_spell hspell hn)
      show Program.run (serve now) (RemoteOperation.check _ _
        (RedisReply.text (spell (ofInt n))).asFloatOrNothing >>= _) s' = _
      rw [hread]
      show (Outcome.ok (truncate (ofInt n)), s') = _
      rw [truncate_ofInt hn]
      rfl

theorem run_setScore {set member : String} {value : Int}
    (hsent : sent (.setScore set member value)) (hset : IsSet set) (hvalue : IsWhole value) :
    StoreStep serve stands IsSet now (.setScore set member value) s m := by
  obtain ⟨s', hs', hrun⟩ := h.run_bind hs ht hsent
    (answer_setScore spell now.millis member hvalue (hm.sets set hset)) _
  exact ⟨s', _, hrun, hs', hm.setScore hset member hvalue⟩

theorem run_incrScore (hspell : SpellsWhole spell) {set member : String} {delta : Int}
    (hsent : sent (.addScore set member delta)) (hset : IsSet set)
    (hdelta : IsWhole delta) (hsum : IsWhole (m.getScore set member + delta)) :
    StoreStep serve stands IsSet now (.incrScore set member delta) s m := by
  have hscore : IsWhole (m.getScore set member) := hm.whole_getScore set member
  have hmember : ((m.members set).mapValues ofInt).getD member (ofInt 0) =
      ofInt (m.getScore set member) := by
    rw [Table.getD, Table.get?_mapValues, Store.getScore, Table.getD]
    cases (m.members set).get? member <;> rfl
  obtain ⟨s', hs', hrun⟩ := h.run_bind hs ht hsent
    (answer_addScore spell now.millis member hdelta hscore hsum hmember (hm.sets set hset)) _
  have hincr : m.incrScore set member delta =
      (.ok (m.getScore set member + delta),
        m.setScore set member (m.getScore set member + delta)) := by
    rw [Store.incrScore, Signed64.add?_of_fits (fits_of_isWhole hsum)]
  rw [StoreStep, Store.serve, hincr]
  refine ⟨s', _, hrun.trans ?_, hs', hm.setScore hset member hsum⟩
  show Program.run (serve now) (RemoteOperation.check _ _ (RedisReply.text _).asFloat >>= _) s' = _
  rw [asFloat_spell hspell hsum]
  show (Outcome.ok (truncate _), s') = _
  rw [truncate_ofInt hsum]

theorem run_rangeByScore {set : String} {low : Int} {high : Option Int}
    (hsent : sent (.membersBetween set low high)) (hset : IsSet set)
    (hlow : IsWhole low) (hhigh : ∀ h ∈ high, IsWhole h) :
    StoreStep serve stands IsSet now (.rangeByScore set low high) s m := by
  have hrange := answer_membersBetween spell now.millis hlow hhigh (hm.sets set hset)
  rw [hm.range_eq hlow hhigh set] at hrange
  obtain ⟨s', hs', hrun⟩ := h.run_bind hs ht hsent hrange _
  exact ⟨s', k, hrun, hs', hm⟩

theorem run_removeMember {set member : String} (hsent : sent (.removeMember set member))
    (hset : IsSet set) :
    StoreStep serve stands IsSet now (.removeMember set member) s m := by
  obtain ⟨s', hs', hrun⟩ := h.run_bind hs ht hsent
    (answer_removeMember spell now.millis member (hm.sets set hset)) _
  exact ⟨s', _, hrun, hs', hm.removeMember hset member⟩

/-- Each call of the presence store in Redis is answered as in memory, while texts and sets are kept
apart, scores stay whole and no text is to last beyond the calendar. -/
theorem run_store (hspell : SpellsWhole spell) {c : StoreCall} (hsent : sent (storeCommand c))
    (hc : m.InDomain IsSet c) (hcalendar : Store.InCalendar ⟨now, c⟩) :
    StoreStep serve stands IsSet now c s m := by
  cases c with
  | getString key => exact run_getString h hs ht hm hsent hc
  | setString key value ttl => exact run_setString h hs ht hm hsent hc.1 hc.2 hcalendar
  | getScore set member => exact run_getScore h hs ht hm hspell hsent hc
  | setScore set member value => exact run_setScore h hs ht hm hsent hc.1 hc.2
  | incrScore set member delta => exact run_incrScore h hs ht hm hspell hsent hc.1 hc.2.1 hc.2.2
  | rangeByScore set low high => exact run_rangeByScore h hs ht hm hsent hc.1 hc.2.1 hc.2.2
  | removeMember set member => exact run_removeMember h hs ht hm hsent hc

end Steps

/-- The replies of the presence store in Redis to the calls of a run, one after another. -/
abbrev storeReplies (serve : Instant → (c : RemoteCall) → σ → Outcome c.Reply × σ)
    (visits : List (Visit StoreCall)) (s : σ) : List (Σ c : StoreCall, Outcome c.Reply) :=
  Visit.answers (fun t c s => Program.run (serve t) (store c) s) visits s

theorem storeReplies_eq (hspell : SpellsWhole spell) (h : Answers spell sent serve stands)
    {visits : List (Visit StoreCall)} (hsent : ∀ v ∈ visits, sent (storeCommand v.call))
    (hs : stands t s k) (hm : Mirrors IsSet k m) (hordered : Visit.Ordered t visits)
    (hdomain : m.RunsInDomain IsSet visits) (hcalendar : ∀ v ∈ visits, Store.InCalendar v) :
    storeReplies serve visits s = Store.replies visits m := by
  induction visits generalizing t s k m with
  | nil => rfl
  | cons v rest ih =>
      obtain ⟨ht, hrest⟩ := hordered
      obtain ⟨hv, hvs⟩ := hdomain
      obtain ⟨s', k', hrun, hs', hm'⟩ :=
        run_store h hs ht hm hspell (hsent v List.mem_cons_self) hv
          (hcalendar v List.mem_cons_self)
      have htail := ih (fun u hu => hsent u (List.mem_cons_of_mem _ hu)) hs' hm' hrest hvs
        fun u hu => hcalendar u (List.mem_cons_of_mem _ hu)
      simp only [storeReplies, Store.replies, Visit.answers, hrun]
      exact congrArg _ htail

/-- From empty stores, every call of a run comes back from Redis as from memory, if the server
answers the commands of that run as it is documented. -/
theorem store_agrees {visits : List (Visit StoreCall)} (hspell : SpellsWhole spell)
    (h : Answers spell (Visit.Sends storeCommand visits) serve stands) (hs : stands t s .empty)
    (hordered : Visit.Ordered t visits) (hdomain : Store.RunsInDomain IsSet visits {})
    (hcalendar : ∀ v ∈ visits, Store.InCalendar v) :
    storeReplies serve visits s = Store.replies visits {} :=
  storeReplies_eq hspell h (fun v hv => ⟨v, hv, rfl⟩) hs (Mirrors.empty IsSet) hordered hdomain
    hcalendar

end Server

/-- A text that lasts for one second, read when the second is over and a millisecond later, and a
score that a member has and another has not. -/
def expiringText : List (Visit StoreCall) :=
  [⟨Clock.noon, .setString "last_online:ada" "1" (some 1)⟩,
    ⟨⟨1792324801000, by decide⟩, .getString "last_online:ada"⟩,
    ⟨⟨1792324801001, by decide⟩, .getString "last_online:ada"⟩,
    ⟨⟨1792324801001, by decide⟩, .incrScore "online_users:5" "bob" 30⟩,
    ⟨⟨1792324801001, by decide⟩, .getScore "online_users:5" "ada"⟩]

theorem store_agrees_expiringText :
    storeReplies (Keyspace.serve spellWhole) expiringText Keyspace.empty =
      [⟨.setString "last_online:ada" "1" (some 1), .ok ()⟩,
        ⟨.getString "last_online:ada", .ok (some "1")⟩, ⟨.getString "last_online:ada", .ok none⟩,
        ⟨.incrScore "online_users:5" "bob" 30, .ok 30⟩,
        ⟨.getScore "online_users:5" "ada", .ok 0⟩] := by
  have hordered : Visit.Ordered Clock.noon expiringText := by
    refine ⟨?_, ?_, ?_, ?_, ?_, trivial⟩ <;> decide
  have hdomain : Store.RunsInDomain (· = "online_users:5") expiringText {} := by
    simp only [expiringText, Store.RunsInDomain, Store.InDomain, and_true]
    decide
  have hcalendar : ∀ v ∈ expiringText, Store.InCalendar v := by
    simp [expiringText, Store.InCalendar, Clock.noon]
  rw [store_agrees spellsWhole_spellWhole (answers_serve _ _) rfl hordered hdomain hcalendar]
  rfl

/-- A text that is to last for a second at the last moment of the calendar. -/
def timelessText : List (Visit StoreCall) :=
  [⟨⟨8210266876799999, by decide⟩, .setString "last_online:ada" "1" (some 1)⟩]

theorem store_disagrees_timelessText :
    Store.RunsInDomain (fun _ => False) timelessText {} ∧
      Visit.Ordered Clock.noon timelessText ∧
      storeReplies (Keyspace.serve spellWhole) timelessText Keyspace.empty ≠
        Store.replies timelessText {} := by
  refine ⟨by simp [timelessText, Store.RunsInDomain, Store.InDomain], ⟨by decide, trivial⟩, ?_⟩
  intro heq
  have hends := congrArg (List.map fun r => r.2.isOk) heq
  exact absurd hends (by decide)

end Remote

end Presence
