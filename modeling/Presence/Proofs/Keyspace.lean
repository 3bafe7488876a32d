import Mathlib.Logic.Function.Basic
import Presence.Proofs.OctetOrder
import Presence.Proofs.WholeNumbers
import Presence.Remote

/-!
# What a Redis server is documented to do

A `Keyspace` holds a text, a list or a set with scores at each key, and `Keyspace.answer` says what
the commands that the service sends do to it, word for word. `Keyspace.Answers` is what is assumed
of a server, for the commands that a program sends to it and for no other: it may keep its content
in any way, and it may drop what has expired when it likes, as long as its replies are these. Main
statement: `Answers.run_bind`, which steps through a program that talks to such a server.
-/

set_option autoImplicit false

namespace Presence

/-- What stands at a key of a server. -/
inductive Keyed where
  /-- A text with the last millisecond at which it can be read, if there is a last one. -/
  | text (value : String) (expires : Option Int)
  /-- Texts from the left end to the right end. -/
  | list (items : List String)
  | scores (members : Table String Binary64)

/-- It can be read at a millisecond. -/
def Keyed.lasts (now : Int) : Keyed → Bool
  | .text _ (some t) => decide (now ≤ t)
  | _ => true

/-- The content of a server. -/
def Keyspace := String → Option Keyed

namespace Keyspace

/-- The content of a new server. -/
def empty : Keyspace := fun _ => none

/-- What can be read at a key. -/
def at? (k : Keyspace) (now : Int) (key : String) : Option Keyed := (k key).filter (Keyed.lasts now)

/-- Leaves something, or nothing, at a key. -/
def put (k : Keyspace) (key : String) (e : Option Keyed) : Keyspace := Function.update k key e

/-- The refusal of a command for another kind of value. -/
def wrongKind : RedisReply :=
  .refused "WRONGTYPE Operation against a key holding the wrong kind of value"

/-- The list that stands at a key for its items: nothing without items. -/
def listOf : List String → Option Keyed
  | [] => none
  | items => some (.list items)

/-- The set that stands at a key for its members: nothing without members. -/
def scoresOf (members : Table String Binary64) : Option Keyed :=
  if members.entries = [] then none else some (.scores members)

/-- Goes on with the list at a key. -/
def withList (k : Keyspace) (now : Int) (key : String)
    (go : List String → RedisReply × Keyspace) : RedisReply × Keyspace :=
  match k.at? now key with
  | none => go []
  | some (.list items) => go items
  | some _ => (wrongKind, k)

/-- Goes on with the set at a key. -/
def withScores (k : Keyspace) (now : Int) (key : String)
    (go : Table String Binary64 → RedisReply × Keyspace) : RedisReply × Keyspace :=
  match k.at? now key with
  | none => go .empty
  | some (.scores members) => go members
  | some _ => (wrongKind, k)

/-- Goes on with the score of a word. -/
def withScore (k : Keyspace) (word : String) (go : Binary64 → RedisReply × Keyspace) :
    RedisReply × Keyspace :=
  match Text.readFloat? word with
  | none | some .nan => (.refused "ERR value is not a valid float", k)
  | some x => go x

/-- A bound on scores: an opening parenthesis keeps the score itself out. -/
def bound? (word : String) : Option (Bool × Binary64) :=
  match word.toList with
  | '(' :: cs => (Text.readFloat? (String.ofList cs)).map fun x => (true, x)
  | _ => (Text.readFloat? word).map fun x => (false, x)

/-- A score that a lower bound lets in. -/
def isAbove (b : Bool × Binary64) (x : Binary64) : Bool :=
  if b.1 then Binary64.less b.2 x else !Binary64.less x b.2

/-- A score that an upper bound lets in. -/
def isBelow (b : Bool × Binary64) (x : Binary64) : Bool :=
  if b.1 then Binary64.less x b.2 else !Binary64.less b.2 x

/-- The order of the members of a set: by score, and by the octets of the member for one score. -/
def comesFirst (a b : String × Binary64) : Bool :=
  Binary64.less a.2 b.2 || (!Binary64.less b.2 a.2 && decide (Text.octets a.1 ≤ Text.octets b.1))

/-- What a command does: its arguments are given. -/
def Handler := (now : Int) → List String → Keyspace → RedisReply × Keyspace

/-- The refusal of a command with the wrong number of arguments. -/
def malformed (k : Keyspace) : RedisReply × Keyspace :=
  (.refused "ERR wrong number of arguments", k)

/-! ## Texts -/

/-- GET -/
def get : Handler
  | now, [key], k =>
    match k.at? now key with
    | none => (.nothing, k)
    | some (.text value _) => (.text value, k)
    | some _ => (wrongKind, k)
  | _, _, k => malformed k

/-- SET writes over whatever stands there, a last instant included. -/
def set : Handler
  | _, [key, value], k => (.done, k.put key (some (.text value none)))
  | _, _, k => malformed k

/-- A number of seconds from a millisecond on that a server can add up: the last millisecond fits
into a word of 64 bits. -/
def IsLifetime (now n : Int) : Prop :=
  0 < n ∧ 1000 * n ≤ Signed64.greatest ∧ now + 1000 * n ≤ Signed64.greatest

instance (now n : Int) : Decidable (IsLifetime now n) := inferInstanceAs (Decidable (_ ∧ _))

/-- SETEX -/
def setFor : Handler
  | now, [key, seconds, value], k =>
    match Text.readSigned64? seconds with
    | none => (.refused "ERR value is not an integer or out of range", k)
    | some n =>
      if IsLifetime now n then (.done, k.put key (some (.text value (some (now + 1000 * n)))))
      else (.refused "ERR invalid expire time in 'setex' command", k)
  | _, _, k => malformed k

/-! ## Sets with scores -/

/-- ZSCORE. `spell` writes a score. -/
def score (spell : Binary64 → String) : Handler
  | now, [key, member], k => k.withScores now key fun members =>
    match members.get? member with
    | none => (.nothing, k)
    | some x => (.text (spell x), k)
  | _, _, k => malformed k

/-- ZADD tells how many members are new. -/
def setScore : Handler
  | now, [key, word, member], k => k.withScore word fun x => k.withScores now key fun members =>
    (.integer (if (members.get? member).isNone then 1 else 0),
      k.put key (scoresOf (members.set member x)))
  | _, _, k => malformed k

/-- ZINCRBY counts a member that is not there as one with the score zero. -/
def addScore (spell : Binary64 → String) : Handler
  | now, [key, word, member], k => k.withScore word fun x => k.withScores now key fun members =>
    match Binary64.plus (members.getD member (.ofInt 0)) x with
    | .nan => (.refused "ERR resulting score is not a number (NaN)", k)
    | sum => (.text (spell sum), k.put key (scoresOf (members.set member sum)))
  | _, _, k => malformed k

/-- ZRANGEBYSCORE -/
def membersBetween : Handler
  | now, [key, low, high], k =>
    match bound? low, bound? high with
    | some l, some h => k.withScores now key fun members =>
      (.list (((members.entries.filter fun p => isAbove l p.2 && isBelow h p.2).mergeSort
        comesFirst).map (·.1)), k)
    | _, _ => (.refused "ERR min or max is not a float", k)
  | _, _, k => malformed k

/-- ZREM tells how many members there were. -/
def removeMember : Handler
  | now, [key, member], k => k.withScores now key fun members =>
    (.integer (if (members.get? member).isNone then 0 else 1),
      k.put key (scoresOf (members.erase member)))
  | _, _, k => malformed k

/-! ## Lists -/

/-- LPUSH tells the length. -/
def pushLeft : Handler
  | now, [key, value], k => k.withList now key fun items =>
    (.integer (items.length + 1), k.put key (listOf (value :: items)))
  | _, _, k => malformed k

/-- Takes a text away from a list, of which `rest` is left, and goes on with another list, which
can be the same one. Nothing is taken where no list stands at the other key. -/
def moveTo (k : Keyspace) (now : Int) (source target : String) (rest : List String)
    (go : List String → RedisReply × List String) : RedisReply × Keyspace :=
  k.withList now target fun _ =>
    let taken := k.put source (listOf rest)
    taken.withList now target fun others =>
      ((go others).1, taken.put target (listOf (go others).2))

/-- BLMOVE from the right end to the left end. Nothing comes in while it waits. -/
def moveWaiting : Handler
  | now, [source, target, "RIGHT", "LEFT", _], k => k.withList now source fun items =>
    match items.getLast? with
    | none => (.nothing, k)
    | some value => k.moveTo now source target items.dropLast fun others =>
      (.text value, value :: others)
  | _, _, k => malformed k

/-- LMOVE from the left end to the right end. -/
def moveBack : Handler
  | now, [source, target, "LEFT", "RIGHT"], k => k.withList now source fun items =>
    match items with
    | [] => (.nothing, k)
    | value :: rest => k.moveTo now source target rest fun others =>
      (.text value, others ++ [value])
  | _, _, k => malformed k

/-- LREM of the first text from the left end that equals a given one; it tells how many there
were. -/
def removeFirst : Handler
  | now, [key, "1", value], k => k.withList now key fun items =>
    (.integer (if value ∈ items then 1 else 0), k.put key (listOf (items.erase value)))
  | _, _, k => malformed k

/-! ## Messages -/

/-- PUBLISH tells how many listen: nobody does. -/
def publish : Handler
  | _, [_, _], k => (.integer 0, k)
  | _, _, k => malformed k

/-- The commands by their names. -/
def commands (spell : Binary64 → String) : List (String × Handler) :=
  [("GET", get), ("SET", set), ("SETEX", setFor), ("ZSCORE", score spell), ("ZADD", setScore),
    ("ZINCRBY", addScore spell), ("ZRANGEBYSCORE", membersBetween), ("ZREM", removeMember),
    ("LPUSH", pushLeft), ("BLMOVE", moveWaiting), ("LMOVE", moveBack), ("LREM", removeFirst),
    ("PUBLISH", publish)]

/-- What a server answers to a command, and what is there afterwards. -/
def answer (spell : Binary64 → String) (now : Int) (words : List String) (k : Keyspace) :
    RedisReply × Keyspace :=
  match words with
  | [] => (.refused "ERR empty command", k)
  | name :: arguments =>
    match (commands spell).lookup name with
    | some handler => handler now arguments k
    | none => (.refused "ERR unknown command", k)

end Keyspace

/-- A wait that comes to an end: longer than nothing, and below `2 ^ 53` seconds, for which a server
has enough milliseconds. -/
def Binary64.isWait : Binary64 → Bool
  | .finite false m e => m ≠ 0 && magnitude m e < 9007199254740992
  | _ => false

namespace Keyspace

/-- A server answers the commands that are sent to it as it is documented, at instants that do not
go back. `stands t s k` means that from `t` on the state `s` of the server is as good as the content
`k`. -/
structure Answers {σ : Type} (spell : Binary64 → String) (sent : RedisCommand → Prop)
    (serve : Instant → (c : RemoteCall) → σ → Outcome c.Reply × σ)
    (stands : Instant → σ → Keyspace → Prop) : Prop where
  replies : ∀ {t now : Instant} {c : RedisCommand} {s : σ} {k : Keyspace}, sent c → stands t s k →
    t ≤ now → (serve now (.redis c) s).1 = .ok (answer spell now.millis c.words k).1
  keeps : ∀ {t now : Instant} {c : RedisCommand} {s : σ} {k : Keyspace}, sent c → stands t s k →
    t ≤ now → stands now (serve now (.redis c) s).2 (answer spell now.millis c.words k).2

/-- Whole scores are written so that they are read back. -/
def SpellsWhole (spell : Binary64 → String) : Prop :=
  ∀ n : Int, Binary64.IsWhole n → Text.readFloat? (spell (.ofInt n)) = some (.ofInt n)

section Programs

variable {σ : Type} {spell : Binary64 → String} {sent : RedisCommand → Prop}
  {serve : Instant → (c : RemoteCall) → σ → Outcome c.Reply × σ}
  {stands : Instant → σ → Keyspace → Prop}

/-- A program that begins with a command goes on with the documented reply, in a state that is as
good as the documented content. -/
theorem Answers.run_bind {α : Type} (h : Answers spell sent serve stands) {t now : Instant}
    {c : RedisCommand} {s : σ} {k k' : Keyspace} {r : RedisReply} (hs : stands t s k) (ht : t ≤ now)
    (hc : sent c) (hanswer : answer spell now.millis c.words k = (r, k'))
    (f : RedisReply → RemoteOperation α) :
    ∃ s', stands now s' k' ∧
      Program.run (serve now) (RemoteOperation.redis c >>= f) s =
        Program.run (serve now) (f r) s' := by
  have hreply := h.replies hc hs ht
  have hkeep := h.keeps hc hs ht
  rw [hanswer] at hreply hkeep
  have hrun : Program.run (serve now) (RemoteOperation.redis c) s =
      (.ok r, (serve now (.redis c) s).2) := Prod.ext hreply rfl
  exact ⟨_, hkeep, by rw [Program.run_bind, hrun]⟩

end Programs

/-- The server that is its own content. -/
def serve (spell : Binary64 → String) (now : Instant) :
    (c : RemoteCall) → Keyspace → Outcome c.Reply × Keyspace
  | .redis c, k =>
    (.ok (answer spell now.millis c.words k).1, (answer spell now.millis c.words k).2)
  | .mongo _, k => (.ok (.refused "no server"), k)
  | .now, k => (.ok now, k)
  | .stamp, k => (.ok now, k)
  | .count _ _, k => (.ok (), k)
  | .enter _, k => (.ok true, k)
  | .leave _, k => (.ok (), k)

/-- How that server writes whole scores. -/
def spellWhole (x : Binary64) : String := toString x.truncate

/-- The server that is its own content answers every command as it is documented. -/
theorem answers_serve (spell : Binary64 → String) (sent : RedisCommand → Prop) :
    Answers spell sent (serve spell) fun _ s k => s = k where
  replies _ hs _ := by
    subst hs
    rfl
  keeps _ hs _ := by
    subst hs
    rfl

theorem spellsWhole_spellWhole : SpellsWhole spellWhole := by
  intro n hn
  rw [spellWhole, Binary64.truncate_ofInt hn, Text.readFloat?_toString hn]

/-! ## What stands at the keys -/

@[simp]
theorem put_self (k : Keyspace) (key : String) (e : Option Keyed) : k.put key e key = e :=
  Function.update_self ..

theorem put_of_ne (k : Keyspace) {key key' : String} (e : Option Keyed) (h : key' ≠ key) :
    k.put key e key' = k key' :=
  Function.update_of_ne h ..

theorem withList_of_eq {k : Keyspace} {key : String} {items : List String}
    (h : k key = listOf items) (now : Int) (go : List String → RedisReply × Keyspace) :
    k.withList now key go = go items := by
  cases items with
  | nil => simp [withList, at?, h, listOf]
  | cons i rest => simp [withList, at?, h, listOf, Keyed.lasts, Option.filter]

theorem moveTo_of_ne {k : Keyspace} {source target : String} (now : Int) {others : List String}
    (hne : target ≠ source) (h : k target = listOf others) (rest : List String)
    (go : List String → RedisReply × List String) :
    k.moveTo now source target rest go =
      ((go others).1, (k.put source (listOf rest)).put target (listOf (go others).2)) := by
  have hother : (k.put source (listOf rest)) target = listOf others := by
    rw [put_of_ne _ _ hne, h]
  rw [moveTo, withList_of_eq h, withList_of_eq hother]

theorem withScores_of_eq {k : Keyspace} {key : String} {members : Table String Binary64}
    (h : k key = scoresOf members) (now : Int)
    (go : Table String Binary64 → RedisReply × Keyspace) :
    k.withScores now key go = go members := by
  rw [scoresOf] at h
  split at h
  · next hempty =>
      have : members = .empty := by
        cases members
        cases hempty
        rfl
      simp [withScores, at?, h, this]
  · simp [withScores, at?, h, Keyed.lasts, Option.filter]

theorem withScore_of_eq {k : Keyspace} {word : String} {n : Int} (hn : Binary64.IsWhole n)
    (h : Text.readFloat? word = some (.ofInt n)) (go : Binary64 → RedisReply × Keyspace) :
    k.withScore word go = go (.ofInt n) := by
  obtain ⟨m, e, hof, -, -⟩ := Binary64.ofInt_eq_finite hn
  rw [withScore, h, hof]

/-! ## The commands on lists -/

section Lists

variable {k : Keyspace} {source target : String} {items others : List String}

theorem answer_pushLeft (spell : Binary64 → String) (now : Int) (value : String)
    (h : k source = listOf items) :
    answer spell now (RedisCommand.pushLeft source value).words k =
      (.integer (items.length + 1), k.put source (listOf (value :: items))) := by
  simp [answer, commands, List.lookup_cons, RedisCommand.words, pushLeft, withList_of_eq h]

theorem answer_removeFirst (spell : Binary64 → String) (now : Int) (value : String)
    (h : k source = listOf items) :
    answer spell now (RedisCommand.removeFirst source value).words k =
      (.integer (if value ∈ items then 1 else 0), k.put source (listOf (items.erase value))) := by
  simp [answer, commands, List.lookup_cons, RedisCommand.words, removeFirst, withList_of_eq h]

theorem answer_moveWaiting_nil (spell : Binary64 → String) (now : Int) (seconds : Binary64)
    (target : String) (h : k source = listOf []) :
    answer spell now (RedisCommand.moveWaiting source target seconds).words k = (.nothing, k) := by
  simp [answer, commands, List.lookup_cons, RedisCommand.words, moveWaiting, withList_of_eq h]

theorem answer_moveWaiting_append (spell : Binary64 → String) (now : Int) (seconds : Binary64)
    (value : String) (hne : target ≠ source) (hs : k source = listOf (items ++ [value]))
    (ht : k target = listOf others) :
    answer spell now (RedisCommand.moveWaiting source target seconds).words k =
      (.text value, (k.put source (listOf items)).put target (listOf (value :: others))) := by
  simp [answer, commands, List.lookup_cons, RedisCommand.words, moveWaiting, withList_of_eq hs,
    moveTo_of_ne _ hne ht]

theorem answer_moveBack_nil (spell : Binary64 → String) (now : Int) (target : String)
    (h : k source = listOf []) :
    answer spell now (RedisCommand.moveBack source target).words k = (.nothing, k) := by
  simp [answer, commands, List.lookup_cons, RedisCommand.words, moveBack, withList_of_eq h]

theorem answer_moveBack_cons (spell : Binary64 → String) (now : Int) (value : String)
    (hne : target ≠ source) (hs : k source = listOf (value :: items))
    (ht : k target = listOf others) :
    answer spell now (RedisCommand.moveBack source target).words k =
      (.text value, (k.put source (listOf items)).put target (listOf (others ++ [value]))) := by
  simp [answer, commands, List.lookup_cons, RedisCommand.words, moveBack, withList_of_eq hs,
    moveTo_of_ne _ hne ht]

end Lists

end Keyspace

/-- A call that is made at an instant. -/
structure Visit (κ : Type) where
  time : Instant
  call : κ

/-- The commands that the calls of a run send, where `command` is that of a call. -/
def Visit.Sends {κ : Type} (command : κ → RedisCommand) (visits : List (Visit κ))
    (c : RedisCommand) : Prop :=
  ∃ v ∈ visits, command v.call = c

namespace Visit

variable {κ : Type} {Reply : κ → Type} {σ : Type}

/-- The instants do not go back, from a first one on. -/
def Ordered (t : Instant) : List (Visit κ) → Prop
  | [] => True
  | v :: rest => t ≤ v.time ∧ Ordered v.time rest

/-- What the calls come back with, one after another. -/
def answers (serve : Instant → (c : κ) → σ → Outcome (Reply c) × σ) :
    List (Visit κ) → σ → List (Σ c : κ, Outcome (Reply c))
  | [], _ => []
  | v :: rest, s =>
    ⟨v.call, (serve v.time v.call s).1⟩ :: answers serve rest (serve v.time v.call s).2

/-- What the calls leave behind. -/
def after (serve : Instant → (c : κ) → σ → Outcome (Reply c) × σ) : List (Visit κ) → σ → σ
  | [], s => s
  | v :: rest, s => after serve rest (serve v.time v.call s).2

theorem Ordered.le {t : Instant} {us : List (Visit κ)} {v : Visit κ} (h : Ordered t (us ++ [v])) :
    t ≤ v.time := by
  induction us generalizing t with
  | nil => exact h.1
  | cons u us ih => exact Int.le_trans h.1 (ih h.2)

/-- Calls at one instant can be made instead of the last one, and earlier. -/
theorem Ordered.cut {t : Instant} {us ws vs : List (Visit κ)} {v : Visit κ}
    (h : Ordered t (us ++ ws ++ [v])) (hvs : ∀ u ∈ vs, u.time = v.time) : Ordered t (us ++ vs) := by
  induction us generalizing t with
  | nil =>
      have hle := h.le
      clear h
      induction vs generalizing t with
      | nil => trivial
      | cons u vs ih =>
          have hu := hvs u List.mem_cons_self
          refine ⟨hu ▸ hle, ih (fun x hx => hvs x (List.mem_cons_of_mem _ hx)) ?_⟩
          exact hu ▸ Int.le_refl _
  | cons u us ih => exact ⟨h.1, ih h.2⟩

end Visit

end Presence
