import Presence.Proofs.Contract
import Presence.Proofs.Delivery
import Presence.Proofs.JsonRecords

/-!
# Events as texts

An event is read back from its text, and what a text says about an event is in its two members.
Main statements: `ActivityEvent.decode?_eq_some_iff`, the texts of an event among all objects,
`Service.run_deliver`, what comes of an event that was queued, and
`ActivityEvent.read_back_and_handled_as_sent`, events survive the queue.
-/

set_option autoImplicit false

namespace Presence

namespace ActivityKind

/-- A member says that an event is of a kind: by the name of the kind, or by an object whose only
member has this name and no value. -/
def IsNamedBy (k : ActivityKind) (t : Json.Tree) : Prop :=
  t = .string (some k.name) ∨ t = .object [(some k.name, .null)]

theorem ofName?_eq_some {name : String} {k : ActivityKind} :
    ofName? name = some k ↔ name = k.name := by
  constructor
  · intro h
    unfold ofName? at h
    split at h
    · cases h
      assumption
    · split at h
      · cases h
        assumption
      · cases h
  · rintro rfl
    exact ofName?_name k

end ActivityKind

namespace Json.Tree

/-- The kinds that values name. -/
theorem exists_kind_iff {t : Tree} {k : ActivityKind} :
    (∃ v, t.value? (.checked 1) 0 = some v ∧ ActivityKind.ofJson? v = some k) ↔
      k.IsNamedBy t := by
  constructor
  · rintro ⟨v, hv, hk⟩
    have hvalue := hasValue_of_value? hv
    unfold ActivityKind.ofJson? at hk
    split at hk
    · obtain rfl := ActivityKind.ofName?_eq_some.1 hk
      cases hvalue with
      | string => exact .inl rfl
    · obtain rfl := ActivityKind.ofName?_eq_some.1 hk
      cases hvalue with
      | object h => exact .inr (by rw [members?_eq_lone h])
    · cases hk
  · rintro (rfl | rfl)
    · exact ⟨_, rfl, ActivityKind.ofName?_name k⟩
    · exact ⟨_, rfl, ActivityKind.ofName?_name k⟩

end Json.Tree

namespace ActivityEvent

open Json

variable {text : String} {e : ActivityEvent} {ms : List (Option String × Tree)}

/-! ## What an object says -/

/-- A text is an object with these members. -/
def IsObject (text : String) (ms : List (Option String × Tree)) : Prop :=
  Token.ofChars? text.toList = some (Tree.object ms).tokens

/-- Members say an event: all have names, the only user is that of the event, and the only kind
names that of the event. -/
structure IsSaidBy (e : ActivityEvent) (ms : List (Option String × Tree)) : Prop where
  hasNames : ∀ m ∈ ms, m.1 ≠ none
  user : Tree.named "userId" ms = [(some "userId", .string (some e.user))]
  kind : ∃ t, Tree.named "kind" ms = [(some "kind", t)] ∧ e.kind.IsNamedBy t

theorem ofValues?_eq_some {user kind : Json} :
    ofValues? user kind = some e ↔
      user = .string e.user ∧ ActivityKind.ofJson? kind = some e.kind := by
  unfold ofValues?
  constructor
  · intro h
    obtain ⟨u, hu, h⟩ := Option.bind_eq_some_iff.1 h
    obtain ⟨k, hk, he⟩ := Option.bind_eq_some_iff.1 h
    cases he
    cases user with
    | string s =>
        cases hu
        exact ⟨rfl, hk⟩
    | _ => cases hu
  · rintro ⟨rfl, hk⟩
    rw [hk]
    rfl

theorem isMember_eq_true {name : String} :
    isMember name = true ↔ name = "userId" ∨ name = "kind" := by
  simp only [isMember, Bool.or_eq_true, decide_eq_true_eq]

theorem IsSaidBy.length_named (h : e.IsSaidBy ms) {name : String} (hname : isMember name = true) :
    (Tree.named name ms).length = 1 := by
  rcases isMember_eq_true.1 hname with rfl | rfl
  · rw [h.user]
    rfl
  · obtain ⟨t, ht, -⟩ := h.kind
    rw [ht]
    rfl

theorem IsSaidBy.eq_user (h : e.IsSaidBy ms) {t : Tree} (ht : (some "userId", t) ∈ ms) :
    t = .string (some e.user) := by
  have hmem : (some "userId", t) ∈ Tree.named "userId" ms :=
    List.mem_filter.2 ⟨ht, decide_eq_true rfl⟩
  rw [h.user] at hmem
  exact congrArg Prod.snd (List.mem_singleton.1 hmem)

theorem IsSaidBy.isNamedBy (h : e.IsSaidBy ms) {t : Tree} (ht : (some "kind", t) ∈ ms) :
    e.kind.IsNamedBy t := by
  have hmem : (some "kind", t) ∈ Tree.named "kind" ms :=
    List.mem_filter.2 ⟨ht, decide_eq_true rfl⟩
  obtain ⟨t', ht', hkind⟩ := h.kind
  rw [ht'] at hmem
  rwa [show t = t' from congrArg Prod.snd (List.mem_singleton.1 hmem)]

/-- An event that members say is read. -/
theorem IsSaidBy.exists_wanted? (h : e.IsSaidBy ms) :
    ∃ vs, Tree.wanted? isMember ms = some vs := by
  refine Tree.exists_wanted? fun m hm => ?_
  obtain ⟨k, t⟩ := m
  obtain ⟨name, hname⟩ := Option.ne_none_iff_exists'.1 (h.hasNames _ hm)
  obtain rfl : k = some name := hname
  refine ⟨name, rfl, fun hread => ?_⟩
  rcases isMember_eq_true.1 hread with rfl | rfl
  · rw [h.eq_user hm]
    exact ⟨_, rfl⟩
  · obtain ⟨v, hv, -⟩ := Tree.exists_kind_iff.2 (h.isNamedBy hm)
    exact ⟨v, hv⟩

/-- The texts of an event among all objects. -/
theorem decode?_eq_some_iff (h : IsObject text ms) : decode? text = some e ↔ e.IsSaidBy ms := by
  have hreads := Token.ofChars?_eq_some.1 h
  unfold decode?
  rw [Tree.record?_of_object hreads]
  cases hwanted : Tree.wanted? isMember ms with
  | none =>
      refine iff_of_false ?_ fun hsaid => ?_
      · -- an object is no pair either
        rw [Tree.read?_of_reads hreads]
        intro hpair
        dsimp only at hpair
        split at hpair
        · rename_i harray
          cases Tree.hasValue_of_value? harray
        · cases hpair
      · obtain ⟨vs, hvs⟩ := hsaid.exists_wanted?
        cases hwanted.symm.trans hvs
  | some vs =>
      dsimp only
      simp only [Option.bind_eq_bind, Option.bind_eq_some_iff]
      constructor
      · rintro ⟨u, hu, k, hk, he⟩
        obtain ⟨hstring, hkind⟩ := ofValues?_eq_some.1 he
        obtain ⟨t, ht, htu⟩ := (Tree.only?_eq_some (by decide) hwanted).1 hu
        obtain ⟨t', ht', htk⟩ := (Tree.only?_eq_some (by decide) hwanted).1 hk
        subst hstring
        cases Tree.hasValue_of_value? htu with
        | string =>
            exact ⟨Tree.ne_none_of_wanted? hwanted, ht, t', ht',
              Tree.exists_kind_iff.1 ⟨k, htk, hkind⟩⟩
      · rintro ⟨-, huser, t, ht, hnamed⟩
        obtain ⟨k, htk, hkind⟩ := Tree.exists_kind_iff.2 hnamed
        exact ⟨.string e.user, (Tree.only?_eq_some (by decide) hwanted).2 ⟨_, huser, rfl⟩, k,
          (Tree.only?_eq_some (by decide) hwanted).2 ⟨t, ht, htk⟩,
          ofValues?_eq_some.2 ⟨rfl, hkind⟩⟩

/-- An object that says no event is refused. -/
theorem decode?_eq_none (h : IsObject text ms) (hno : ∀ e : ActivityEvent, ¬ e.IsSaidBy ms) :
    decode? text = none :=
  Option.eq_none_iff_forall_ne_some.2 fun e he => hno e ((decode?_eq_some_iff h).1 he)

/-- A text of an event is an object or a pair. -/
theorem object_or_pair (h : decode? text = some e) :
    (∃ ms, IsObject text ms) ∨
      ∃ user kind, Token.ofChars? text.toList = some (Tree.array [user, kind]).tokens := by
  unfold decode? at h
  split at h
  · rename_i vs hrecord
    obtain ⟨ms, hms⟩ := Tree.exists_object_of_record? hrecord
    exact .inl ⟨ms, Token.ofChars?_eq_some.2 hms⟩
  · split at h
    · rename_i user kind hread
      obtain ⟨t, hreads, hvalue⟩ := Tree.exists_tree_of_read? hread
      cases Tree.hasValue_of_value? hvalue with
      | @array ts vs hvs =>
          cases ts with
          | nil => cases hvs
          | cons t ts =>
              obtain ⟨v, vs, -, hvs, heq⟩ := Tree.values?_cons.1 hvs
              cases heq
              cases ts with
              | nil => cases hvs
              | cons t' ts =>
                  obtain ⟨v', vs', -, hvs, heq⟩ := Tree.values?_cons.1 hvs
                  cases heq
                  cases ts with
                  | nil => exact .inr ⟨t, t', Token.ofChars?_eq_some.2 hreads⟩
                  | cons t'' ts =>
                      obtain ⟨v'', vs'', -, -, heq⟩ := Tree.values?_cons.1 hvs
                      cases heq
    · cases h

/-! ## Writing and reading -/

/-- The text of an event is an object with two members. -/
theorem isObject_encode (e : ActivityEvent) :
    IsObject e.encode [(some "userId", .string (some e.user)),
      (some "kind", .string (some e.kind.name))] := by
  have hname (s : String) (r : List Char) :
      (quoted s ++ r).dropWhile Token.isGap = quoted s ++ r := rfl
  have htext : e.encode.toList = '\x7b' :: (quoted "userId" ++ ':' :: (quoted e.user ++
      ',' :: (quoted "kind" ++ ':' :: (quoted e.kind.name ++ ['\x7d'])))) := by
    unfold encode Json.text toJson
    simp only [String.toList_ofList, write, writeMembers, List.append_assoc, List.cons_append]
  unfold IsObject
  rw [htext, Token.ofChars?_eq_some]
  refine .cons rfl rfl (.cons (hname _ _) (Token.first?_quoted _ _) (.cons rfl rfl
    (.cons (hname _ _) (Token.first?_quoted _ _) (.cons rfl rfl (.cons (hname _ _)
      (Token.first?_quoted _ _) (.cons rfl rfl (.cons (hname _ _) (Token.first?_quoted _ _)
        (.cons rfl rfl (.nil rfl)))))))))

theorem decode?_encode (e : ActivityEvent) : decode? e.encode = some e :=
  (decode?_eq_some_iff e.isObject_encode).2
    ⟨by simp, rfl, _, rfl, .inl rfl⟩

/-- Only the tokens of a text count. -/
theorem decode?_congr {text' : String}
    (h : Token.ofChars? text'.toList = Token.ofChars? text.toList) :
    decode? text' = decode? text := by
  unfold decode? record? read?
  rw [h]

/-- Blanks between two tokens do not count. -/
theorem decode?_spaced {a g b : String} {ts us : List Token}
    (ha : Token.ofChars? a.toList = some ts) (hb : Token.ofChars? b.toList = some us)
    (hab : Token.ofChars? (a ++ b).toList = some (ts ++ us))
    (hg : ∀ c ∈ g.toList, Token.isGap c = true) : decode? (a ++ g ++ b) = decode? (a ++ b) := by
  refine decode?_congr (Eq.trans ?_ hab.symm)
  rw [String.toList_append, String.toList_append, List.append_assoc]
  by_cases hne : g.toList = []
  · rw [hne, List.nil_append, ← String.toList_append]
    exact hab
  · exact Token.ofChars?_eq_some.2
      ((Token.ofChars?_eq_some.1 ha).append_gap hg hne (Token.ofChars?_eq_some.1 hb))

/-- The members that are read, in order. -/
def readMembers (ms : List (Option String × Tree)) : List (Option String × Tree) :=
  ms.filter fun m => m.1.any isMember

theorem named_readMembers {name : String} (h : isMember name = true)
    (ms : List (Option String × Tree)) : Tree.named name (readMembers ms) = Tree.named name ms := by
  unfold Tree.named readMembers
  rw [List.filter_filter]
  refine List.filter_congr fun m _ => ?_
  by_cases hname : m.1 = some name
  · rw [decide_eq_true hname, hname, Option.any_some, h]
    rfl
  · rw [decide_eq_false hname]
    rfl

/-- Neither the order of members nor other members change what is said. -/
theorem IsSaidBy.of_perm {ms' : List (Option String × Tree)} (h : e.IsSaidBy ms)
    (hnames : ∀ m ∈ ms', m.1 ≠ none) (hperm : (readMembers ms').Perm (readMembers ms)) :
    e.IsSaidBy ms' := by
  have hnamed {name : String} (hname : isMember name = true) {m : Option String × Tree}
      (hm : Tree.named name ms = [m]) : Tree.named name ms' = [m] := by
    have hfilter := hperm.filter fun m => m.1 = some name
    change (Tree.named name (readMembers ms')).Perm (Tree.named name (readMembers ms)) at hfilter
    rw [named_readMembers hname, named_readMembers hname, hm] at hfilter
    exact List.perm_singleton.1 hfilter
  obtain ⟨t, ht, hkind⟩ := h.kind
  exact ⟨hnames, hnamed (by decide) h.user, t, hnamed (by decide) ht, hkind⟩

end ActivityEvent

/-! ## Events in the queue -/

namespace Service

open Operation Program

variable (s : Service)

/-- Puts an event into the queue, takes the next payload and handles it. -/
def deliver (e : ActivityEvent) (timeout : Binary64) : Operation (Option PayloadStatus) := do
  enqueue e
  match ← next timeout with
  | some payload => do pure (some (← s.handle payload))
  | none => pure none

/-- What becomes of the payload of an event. -/
def statusOf : Outcome Accrual → Outcome PayloadStatus
  | .ok _ => .ok .processed
  | .failed _ => .ok .failed
  | .crashed c => .crashed c

/-- What is left to do for the payload of an event once the event had its effect. -/
def conclude (e : ActivityEvent) : Outcome Accrual → Operation PayloadStatus
  | .ok _ => do
    count (.eventsProcessed e.kind.name) 1
    pure .processed
  | .failed _ => do
    count (.eventsFailed e.kind.name) 1
    pure .failed
  | .crashed c => .done (.crashed c)

theorem process_encode (e : ActivityEvent) :
    s.process e.encode = (s.record e).settle (conclude e) := by
  unfold process
  rw [ActivityEvent.decode?_encode]
  refine (settle_settle _ _ _).trans (congrArg _ (funext fun o => ?_))
  cases o <;> rfl

theorem handle_encode (e : ActivityEvent) :
    s.handle e.encode =
      (s.record e).settle fun o => conclude e o >>= Handler.confirm e.encode := by
  refine Eq.trans (b := (s.record e).settle (conclude e) >>= Handler.confirm e.encode) ?_ ?_
  · rw [← process_encode]
    rfl
  · exact settle_settle _ _ _

theorem only_conclude (e : ActivityEvent) (o : Outcome Accrual) :
    (conclude e o >>= Handler.confirm e.encode).Only
      fun c => (∃ k n, c = .count k n) ∨ c = .queue (.ack e.encode) := by
  refine Only.bind ?_ fun st => Only.bind (Only.attempt (only_ask (.inr rfl))) fun _ => only_pure _
  cases o with
  | ok a => exact Only.bind (only_ask (.inl ⟨_, _, rfl⟩)) fun _ => only_pure _
  | failed f => exact Only.bind (only_ask (.inl ⟨_, _, rfl⟩)) fun _ => only_pure _
  | crashed c => exact True.intro

/-- A handler that has an event before it never finds the payload malformed, whatever comes back
from its calls. -/
theorem conclude_ne_malformed {σ : Type} (serve : (c : Call) → σ → Outcome c.Reply × σ)
    (e : ActivityEvent) (o : Outcome Accrual) (x : σ) :
    (Program.run serve (conclude e o >>= Handler.confirm e.encode) x).1 ≠ .ok .malformed := by
  have hany {α : Type} (p : Operation α) (y : σ) :
      Meets (.exact serve) p (fun _ _ => True) y :=
    keeps_exact_iff.2 fun _ _ => True.intro
  have hstatus : Meets (.exact serve) (conclude e o) (fun st _ => st ≠ .malformed) x := by
    cases o with
    | ok a =>
        exact Meets.bind (hany _ _) fun _ _ _ => meets_pure (fun h => nomatch h)
    | failed f =>
        exact Meets.bind (hany _ _) fun _ _ _ => meets_pure (fun h => nomatch h)
    | crashed c => exact keeps_exact_iff.2 fun _ h => nomatch h
  have hdone : Meets (.exact serve) (conclude e o >>= Handler.confirm e.encode)
      (fun st _ => st ≠ .malformed) x :=
    hstatus.bind fun st t hst => (hany _ _).bind fun _ _ _ => meets_pure hst
  exact fun h => keeps_exact_iff.1 hdone _ h rfl

end Service

namespace Memory

/-- Replaces the queue. -/
def withQueue (m : Memory) (q : Queue) : Memory := { m with queue := q }

theorem serve_withQueue {c : Call} (h : c.isQueue = false) (m : Memory) (q : Queue) :
    serve c (m.withQueue q) = ((serve c m).1, (serve c m).2.withQueue q) := by
  cases c with
  | queue c => cases h
  | store c => rfl
  | ledger c => rfl
  | profile u => rfl
  | notify n => rfl
  | now => rfl
  | count c n => rfl
  | enter job => rfl
  | leave job => rfl

/-- A program without a call on the queue runs alike whatever the queue holds. -/
theorem run_withQueue {α : Type} {p : Operation α} (hp : p.Only fun c => c.isQueue = false)
    (m : Memory) (q : Queue) :
    (m.withQueue q).run p = ((m.run p).1, (m.run p).2.withQueue q) := by
  unfold run
  induction p generalizing m with
  | done o => rfl
  | call c next ih =>
      rw [Program.run, serve_withQueue hp.1]
      exact ih _ (hp.2 _) _

end Memory

namespace Service

open Operation Program ActivityEvent

variable (s : Service)

/-- A handler leaves behind what the event does, apart from the queue and the counters. -/
theorem run_conclude (e : ActivityEvent) (o : Outcome Accrual) (m : Memory) :
    let r := m.run (conclude e o >>= Handler.confirm e.encode)
    r.1 = statusOf o ∧ r.2 = { m with queue := r.2.queue, metrics := r.2.metrics } ∧
      r.2.queue.ready = m.queue.ready := by
  cases o with
  | ok a => exact ⟨rfl, rfl, rfl⟩
  | failed f => exact ⟨rfl, rfl, rfl⟩
  | crashed c => exact ⟨rfl, rfl, rfl⟩

/-- Of an event that was queued comes what the event does; if others were ready, what the first of
these does. -/
theorem run_deliver {m : Memory} {before after : List ActivityEvent} {e first : ActivityEvent}
    (hready : m.queue.ready = before.map encode) (hfirst : before ++ [e] = first :: after)
    (timeout : Binary64) :
    let r := m.run (s.deliver e timeout)
    let done := m.run (s.record first)
    r.1 = (statusOf done.1).map some ∧
      r.2 = { done.2 with queue := r.2.queue, metrics := r.2.metrics } ∧
        r.2.queue.ready = after.map encode := by
  -- the queue after the first payload was taken from it
  let q : Queue := ⟨after.map encode, m.queue.processing ++ [first.encode], true⟩
  have htaken : m.run (s.deliver e timeout) =
      (m.withQueue q).run (do pure (some (← s.handle first.encode))) := by
    unfold deliver
    rw [Memory.run_bind_ok (t := m.withQueue (m.queue.submit e.encode)) rfl]
    have hqueue : (m.queue.submit e.encode).ready = first.encode :: after.map encode := by
      show m.queue.ready ++ [e.encode] = _
      rw [hready, ← List.map_cons, ← hfirst, List.map_append]
      rfl
    have hnext : (m.withQueue (m.queue.submit e.encode)).run (next timeout) =
        (.ok (some first.encode), m.withQueue q) := by
      show (((m.queue.submit e.encode).next timeout).1,
        m.withQueue ((m.queue.submit e.encode).next timeout).2) = _
      unfold Queue.next Queue.pop
      rw [hqueue]
      rfl
    rw [Memory.run_bind_ok hnext]
  have hrecord := Memory.run_withQueue (s.only_record first) m q
  have hhandle : (m.withQueue q).run (s.handle first.encode) =
      ((m.run (s.record first)).2.withQueue q).run
        (conclude first (m.run (s.record first)).1 >>= Handler.confirm first.encode) := by
    rw [handle_encode]
    refine (Program.run_settle Memory.serve _ _ _).trans ?_
    show Memory.run (conclude first ((m.withQueue q).run (s.record first)).1 >>= _)
      ((m.withQueue q).run (s.record first)).2 = _
    rw [hrecord]
  dsimp only
  rw [htaken, Memory.run_map, hhandle]
  obtain ⟨hstatus, hrest, hready'⟩ :=
    run_conclude first (m.run (s.record first)).1 ((m.run (s.record first)).2.withQueue q)
  exact ⟨congrArg (Outcome.map some) hstatus, hrest, hready'⟩

end Service

namespace ActivityEvent

open Json

/-- How events travel as texts. -/
structure ReadBackAndHandled : Prop where
  /-- An event is read back from its text. -/
  roundTrip : ∀ e : ActivityEvent, decode? e.encode = some e
  /-- In surroundings that answer in any way, a handler of the text of an event does what the event
  does. After that it only counts and confirms, and it never finds the text malformed. -/
  handled : ∀ {σ : Type} (serve : (c : Call) → σ → Outcome c.Reply × σ) (s : Service)
    (e : ActivityEvent) (x : σ), ∃ rest : Operation PayloadStatus,
      rest.Only (fun c => (∃ k n, c = .count k n) ∨ c = .queue (.ack e.encode)) ∧
        Program.run serve (s.handle e.encode) x =
          Program.run serve rest (Program.run serve (s.record e) x).2 ∧
        (Program.run serve (s.handle e.encode) x).1 ≠ .ok .malformed
  /-- In memory, of an event that was queued comes what the event does, if nothing else is ready. If
  other events are ready, what the first of these does. Apart from the queue and the counters this
  is all that comes of it. -/
  delivered : ∀ (s : Service) (m : Memory) (before after : List ActivityEvent)
    (e first : ActivityEvent) (timeout : Binary64),
      m.queue.ready = before.map encode → before ++ [e] = first :: after →
        let r := m.run (s.deliver e timeout)
        let done := m.run (s.record first)
        r.1 = (Service.statusOf done.1).map some ∧
          r.2 = { done.2 with queue := r.2.queue, metrics := r.2.metrics } ∧
            r.2.queue.ready = after.map encode
  /-- A text of an event is an object or a pair. -/
  shaped : ∀ (text : String) (e : ActivityEvent), decode? text = some e →
    (∃ ms, IsObject text ms) ∨
      ∃ user kind, Token.ofChars? text.toList = some (Tree.array [user, kind]).tokens
  /-- What an object says of an event depends on its user and its kind. -/
  said : ∀ (text : String) (ms : List (Option String × Tree)) (e : ActivityEvent),
    IsObject text ms → (decode? text = some e ↔ e.IsSaidBy ms)
  /-- Neither the order of the members nor members with other names change the event. -/
  rearranged : ∀ (text text' : String) (ms ms' : List (Option String × Tree)) (e : ActivityEvent),
    IsObject text ms → IsObject text' ms' → decode? text = some e → (∀ m ∈ ms', m.1 ≠ none) →
      (readMembers ms').Perm (readMembers ms) → decode? text' = some e
  /-- Nor do blanks between two tokens. -/
  spaced : ∀ (a gap b : String) (ts us : List Token), Token.ofChars? a.toList = some ts →
    Token.ofChars? b.toList = some us → Token.ofChars? (a ++ b).toList = some (ts ++ us) →
      (∀ c ∈ gap.toList, Token.isGap c = true) → decode? (a ++ gap ++ b) = decode? (a ++ b)
  /-- A member that is missing or repeated makes an object no event. -/
  single : ∀ (text : String) (ms : List (Option String × Tree)) (name : String),
    IsObject text ms → isMember name = true → (Tree.named name ms).length ≠ 1 →
      decode? text = none
  /-- So does a user that is no string. -/
  userString : ∀ (text : String) (ms : List (Option String × Tree)) (t : Tree),
    IsObject text ms → (some "userId", t) ∈ ms → (∀ u, t ≠ .string (some u)) → decode? text = none
  /-- So does a kind that is a string, but not the name of a kind. -/
  kindName : ∀ (text : String) (ms : List (Option String × Tree)) (name : Option String),
    IsObject text ms → (some "kind", .string name) ∈ ms →
      (∀ k : ActivityKind, name ≠ some k.name) → decode? text = none

/-- Events survive the queue, and what a text says of an event is in its two members. -/
theorem read_back_and_handled_as_sent : ReadBackAndHandled where
  roundTrip := decode?_encode
  handled serve s e x := by
    have hrun : Program.run serve (s.handle e.encode) x =
        Program.run serve (Service.conclude e (Program.run serve (s.record e) x).1 >>=
          Handler.confirm e.encode) (Program.run serve (s.record e) x).2 := by
      rw [Service.handle_encode]
      exact Program.run_settle serve _ _ x
    refine ⟨_, Service.only_conclude e _, hrun, ?_⟩
    rw [hrun]
    exact Service.conclude_ne_malformed serve e _ _
  delivered s m before after e first timeout hready hfirst := s.run_deliver hready hfirst timeout
  shaped text e := object_or_pair
  said text ms e := decode?_eq_some_iff
  rearranged text text' ms ms' e hms hms' he hnames hperm :=
    (decode?_eq_some_iff hms').2 (((decode?_eq_some_iff hms).1 he).of_perm hnames hperm)
  spaced a gap b ts us := decode?_spaced
  single text ms name hms hname hlength :=
    decode?_eq_none hms fun e he => hlength (he.length_named hname)
  userString text ms t hms ht hno :=
    decode?_eq_none hms fun e he => hno e.user (he.eq_user ht)
  kindName text ms name hms ht hno := by
    refine decode?_eq_none hms fun e he => ?_
    rcases he.isNamedBy ht with hname | hobject
    · cases hname
      exact hno e.kind rfl
    · cases hobject

/-- The text of an event with its members the other way round, among them one more. -/
def nestedNote : String :=
  " \x7b\"note\": [1, \x7b\"userId\": null\x7d],\n \"kind\": \"activity\", " ++
    "\"userId\": \"a\\u0064\\ud83d\\ude00\"\x7d"

/-- Its members. -/
def nestedNoteMembers : List (Option String × Tree) :=
  [(some "note", .array [.int 1, .object [(some "userId", .null)]]),
    (some "kind", .string (some "activity")), (some "userId", .string (some "ad😀"))]

theorem read_back_and_handled_as_sent_nestedNote :
    IsObject nestedNote nestedNoteMembers ∧ decode? nestedNote = some ⟨"ad😀", .activity⟩ := by
  have hobject : IsObject nestedNote nestedNoteMembers := by
    unfold IsObject nestedNote
    rfl
  have hlaws := read_back_and_handled_as_sent
  refine ⟨hobject, hlaws.rearranged _ _ _ _ _ (isObject_encode ⟨"ad😀", .activity⟩) hobject
    (hlaws.roundTrip _) ?_ (List.Perm.swap _ _ _)⟩
  simp [nestedNoteMembers]

end ActivityEvent

end Presence
