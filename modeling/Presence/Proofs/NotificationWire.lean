import Presence.Proofs.JsonWriting
import Presence.Proofs.Reading
import Presence.Remote

/-!
# Notifications as texts

The members of the template stand beside those of the notification, the parameters in an object of
their own, so that no name of a parameter is taken for a member. Main statements:
`Notification.decode?_encode`, a notification is read back from its text, and
`Notification.decode?_encode_withParams`, this holds of every notification that was made by setting
parameters.
-/

set_option autoImplicit false

namespace Presence

namespace Table

variable {κ β : Type} [Ord κ] [Std.TransOrd κ] [Std.LawfulEqOrd κ]

omit [Std.LawfulEqOrd κ] in
/-- What comes after all entries is placed at the end. -/
theorem place_concat {k : κ} {v : β} {l : List (κ × β)} (h : ∀ p ∈ l, compare p.1 k = .lt) :
    place k v l = l ++ [(k, v)] := by
  induction l with
  | nil => rfl
  | cons p l ih =>
      obtain ⟨hp, hl⟩ := List.forall_mem_cons.1 h
      have hgt : compare k p.1 = .gt := Std.OrientedCmp.gt_of_lt hp
      rw [place, hgt, ih hl]
      rfl

/-- A table is made anew from its entries. -/
theorem ofList_entries (t : Table κ β) : ofList t.entries = t := by
  -- the entries that are still to be written come after those of the table before
  have hfold : ∀ (l : List (κ × β)) (s : Table κ β),
      (s.entries ++ l).Pairwise (fun a b => compare a.1 b.1 = .lt) →
        (l.foldl (fun s p => s.set p.1 p.2) s).entries = s.entries ++ l := by
    intro l
    induction l with
    | nil => exact fun s _ => (List.append_nil _).symm
    | cons p l ih =>
        intro s hs
        have hset : (s.set p.1 p.2).entries = s.entries ++ [p] :=
          place_concat fun q hq => (List.pairwise_append.1 hs).2.2 q hq p List.mem_cons_self
        have hstep := ih (s.set p.1 p.2)
        rw [hset, List.append_assoc, List.singleton_append] at hstep
        exact hstep hs
  exact ext_get? fun k => congrArg (find? k) (hfold t.entries empty t.ascending)

variable [BEq κ] [LawfulBEq κ]

/-- The value at a key is the one that was written last. -/
theorem get?_foldl_set (l : List (κ × β)) (t : Table κ β) (k : κ) :
    (l.foldl (fun t p => t.set p.1 p.2) t).get? k = (l.reverse.lookup k).or (t.get? k) := by
  induction l generalizing t with
  | nil => rfl
  | cons p l ih =>
      obtain ⟨k', v⟩ := p
      rw [List.foldl_cons, ih, List.reverse_cons, List.lookup_append, Option.or_assoc]
      congr 1
      by_cases hk : k = k'
      · subst hk
        simp
      · rw [get?_set_of_ne t v hk]
        simp [List.lookup_cons, beq_eq_false_iff_ne.2 hk]

end Table

namespace Json

/-- Members whose values are sorted stay as they are. -/
theorem sortedMembers_eq {ms : List (String × Json)} (h : ∀ m ∈ ms, m.2.sorted = m.2) :
    sortedMembers ms = ms := by
  induction ms with
  | nil => rfl
  | cons m ms ih =>
      obtain ⟨hm, hms⟩ := List.forall_mem_cons.1 h
      rw [sortedMembers, hm, ih hms]

end Json

/-- The level of a template is a number of 32 bits. -/
def Template.Levelled : Template → Prop
  | .onlineTimeAlert level => level ≤ greatestLevel
  | .sleepReminder => True

namespace Notification

open Json

/-- The members of a notification with these values. -/
def membersOf (user : String) (t : Template) (kind : String) (params : List (String × Json)) :
    List (String × Json) :=
  ("userId", .string user) :: t.members ++ [("kind", .string kind), ("params", .object params)]

section Members

variable {user kind : String} {t : Template} {params : List (String × Json)}

/-- Each member of a notification is the only one of its name. -/
theorem only?_membersOf (user : String) (t : Template) (kind : String)
    (params : List (String × Json)) :
    only? "userId" (membersOf user t kind params) = some (.string user) ∧
      only? "kind" (membersOf user t kind params) = some (.string kind) ∧
        only? "params" (membersOf user t kind params) = some (.object params) := by
  cases t <;> simp [membersOf, Template.members, only?]

/-- The template is read from the members among which those of the template stand. -/
theorem ofMembers?_membersOf (h : t.Levelled) :
    Template.ofMembers? (membersOf user t kind params) = some t := by
  cases t with
  | onlineTimeAlert level =>
      have hlevel : (Json.int level).int? 0 Template.greatestLevel = some (level : Int) :=
        if_pos ⟨by omega, Int.ofNat_le.2 h⟩
      simp [Template.ofMembers?, membersOf, Template.members, only?, Template.isAlert?, hlevel]
  | sleepReminder =>
      simp [Template.ofMembers?, membersOf, Template.members, only?, Template.isAlert?]

theorem isWord_of_le {level : Nat} (h : level ≤ Template.greatestLevel) :
    isWord (level : Int) = true := by
  have hle : level ≤ 4294967295 := h
  simp only [isWord, Bool.and_eq_true, decide_eq_true_eq]
  omega

theorem plain_membersOf (h : t.Levelled) (hparams : ∀ p ∈ params, Plain 125 p.2) :
    ∀ p ∈ membersOf user t kind params, Plain 126 p.2 := by
  have htemplate : ∀ p ∈ t.members, Plain 126 p.2 := by
    cases t with
    | onlineTimeAlert level =>
        exact List.forall_mem_cons.2 ⟨.string _, List.forall_mem_singleton.2
          (.int (isWord_of_le h))⟩
    | sleepReminder => exact List.forall_mem_singleton.2 (.string _)
  refine List.forall_mem_append.2 ⟨List.forall_mem_cons.2 ⟨.string _, htemplate⟩, ?_⟩
  exact List.forall_mem_cons.2 ⟨.string _, List.forall_mem_singleton.2 (.object hparams)⟩

end Members

/-- The values that stand for data and can be sent as parameters. The reader admits 127 containers
that are open at a time; two of them are the notification and its parameters. -/
structure Sendable (v : Json) : Prop where
  plain : Plain 125 v
  data : v.sorted = v

/-- A notification is read back from its text. -/
theorem decode?_encode {n : Notification} (ht : n.template.Levelled)
    (hn : ∀ p ∈ n.params.entries, Sendable p.2) : decode? n.encode = some n := by
  have hrecord : record? (fun _ => true) n.encode.toList =
      some (membersOf n.user n.template n.kind n.params.entries) := by
    rw [← List.filter_true (membersOf n.user n.template n.kind n.params.entries)]
    exact record?_text _ (plain_membersOf ht fun p hp => (hn p hp).plain)
  obtain ⟨huser, hkind, hparams⟩ :=
    only?_membersOf n.user n.template n.kind n.params.entries
  have htable : Table.ofList (sortedMembers n.params.entries) = n.params := by
    rw [sortedMembers_eq fun p hp => (hn p hp).data, Table.ofList_entries]
  unfold decode?
  simp only [hrecord, huser, hkind, hparams, ofMembers?_membersOf ht, object?, string?, htable,
    Option.bind_eq_bind, Option.bind_some]

/-! ## Notifications that are made -/

/-- The notification with parameters set one after the other. -/
def withParams (n : Notification) (ps : List (String × Json)) : Notification :=
  ps.foldl (fun n p => n.withParam p.1 p.2) n

theorem withParams_eq (n : Notification) (ps : List (String × Json)) :
    n.withParams ps = { n with params := ps.foldl (fun t p => t.set p.1 p.2) n.params } := by
  induction ps generalizing n with
  | nil => rfl
  | cons p ps ih => exact ih (n.withParam p.1 p.2)

/-- The parameters are those that were set, each with its last value. -/
theorem get?_withParams (user : String) (t : Template) (ps : List (String × Json)) (key : String) :
    ((ofTemplate user t).withParams ps).params.get? key = ps.reverse.lookup key := by
  rw [withParams_eq, Table.get?_foldl_set]
  exact Option.or_none

theorem mem_of_mem_withParams {user : String} {t : Template} {ps : List (String × Json)}
    {p : String × Json} (h : p ∈ ((ofTemplate user t).withParams ps).params.entries) : p ∈ ps := by
  rw [← Table.get?_eq_some_iff (k := p.1) (v := p.2), get?_withParams,
    List.lookup_eq_some_iff] at h
  obtain ⟨before, after, hps, -⟩ := h
  exact List.mem_reverse.1 (hps ▸ List.mem_append_right _ List.mem_cons_self)

/-- Publishing a notification is one command with its text, whatever the reply. -/
theorem notify_eq (channel : String) (n : Notification) :
    ∃ next, Remote.notify channel n = .call (.redis (.publish channel n.encode)) next ∧
      ∀ r, ∃ o, next r = .done o := by
  refine ⟨_, rfl, fun r => ?_⟩
  cases r with
  | ok reply =>
      -- a reply that is no number is a failure
      show ∃ o, (RemoteOperation.expect _ reply.asInt >>= fun _ => pure ()) = Program.done o
      cases reply.asInt with
      | ok count => exact ⟨.ok (), rfl⟩
      | error message => exact ⟨.failed (.reported _), rfl⟩
  | failed e => exact ⟨_, rfl⟩
  | crashed c => exact ⟨_, rfl⟩

/-- What comes of a notification to a user, made from a template by setting parameters. -/
structure Survives (user : String) (t : Template) (ps : List (String × Json)) (n : Notification) :
    Prop where
  user : n.user = user
  template : n.template = t
  kind : n.kind = t.kind
  /-- Each parameter has the value that it was given last, and there are no others. -/
  params : ∀ key, n.params.get? key = ps.reverse.lookup key
  /-- Its text is read as the same notification. -/
  readBack : decode? n.encode = some n
  /-- Publishing it is one command with this text, whatever the reply. -/
  published : ∀ channel, ∃ next,
    Remote.notify channel n = .call (.redis (.publish channel n.encode)) next ∧
      ∀ r, ∃ o, next r = .done o

/-- A notification that was made by setting parameters is read back from what is published. -/
theorem decode?_encode_withParams (user : String) {t : Template} (ht : t.Levelled)
    {ps : List (String × Json)} (hps : ∀ p ∈ ps, Sendable p.2) :
    Survives user t ps ((ofTemplate user t).withParams ps) := by
  have hn := withParams_eq (ofTemplate user t) ps
  have htemplate : ((ofTemplate user t).withParams ps).template = t := by rw [hn]; rfl
  refine ⟨by rw [hn]; rfl, htemplate, by rw [hn]; rfl, get?_withParams user t ps, ?_,
    fun channel => notify_eq channel _⟩
  exact decode?_encode (htemplate.symm ▸ ht) fun p hp => hps p (mem_of_mem_withParams hp)

/-- Parameters with the names of members, one of them set twice, and the greatest and the least
integer of a word. -/
def namesakes : List (String × Json) :=
  [("userId", .int 18446744073709551615), ("params", .object [("a", .array []), ("kind", .null)]),
    ("level", .array [.int (-9223372036854775808), .bool true]), ("userId", .string "\"😀\n")]

theorem decode?_encode_withParams_namesakes :
    Survives "u" (.onlineTimeAlert 4294967295) namesakes
      ((ofTemplate "u" (.onlineTimeAlert 4294967295)).withParams namesakes) := by
  have hwords : isWord 18446744073709551615 = true ∧ isWord (-9223372036854775808) = true := by
    decide
  refine decode?_encode_withParams "u" (Nat.le_refl _) (List.forall_mem_cons.2
    ⟨⟨.int hwords.1, rfl⟩, List.forall_mem_cons.2 ⟨⟨.object ?_, rfl⟩, List.forall_mem_cons.2
      ⟨⟨.array ?_, rfl⟩, List.forall_mem_singleton.2 ⟨.string _, rfl⟩⟩⟩⟩)
  · exact List.forall_mem_cons.2 ⟨.array fun v hv => absurd hv List.not_mem_nil,
      List.forall_mem_singleton.2 .null⟩
  · exact List.forall_mem_cons.2 ⟨.int hwords.2, List.forall_mem_singleton.2 (.bool true)⟩

end Notification

end Presence
