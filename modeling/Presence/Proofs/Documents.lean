import Presence.Proofs.Keyspace
import Presence.Remote
import Presence.Toml

/-!
# What a MongoDB server is documented to do

A collection holds documents. `Documents.Found` says which of them a query finds and in which order,
and `Documents.upsert?` what an update leaves, operator by operator. `Documents.Answers` is what is
assumed of a server, for the queries and updates that a program sends to it and for no other: it may
keep its content in any way, name new documents as it likes, order the fields of a document as it
likes, and hand out what it has found in any number of batches. Main statement: `Answers.run_find`,
a program that asks for documents gets what is found, whatever the batches are.
-/

set_option autoImplicit false

namespace Presence

namespace Documents

open RemoteOperation

/-! ## Queries -/

/-- An operator of a filter holds of a text. -/
def holds (operator : String) (operand : Bson) (text : String) : Bool :=
  match operator, operand with
  | "$gte", .string s => decide (Text.octets s ≤ Text.octets text)
  | "$lte", .string s => decide (Text.octets text ≤ Text.octets s)
  | _, _ => false

/-- A condition of a filter, a text or a document of operators, holds of a text. -/
def admits (condition : Bson) (text : String) : Bool :=
  match condition with
  | .string s => s = text
  | .document operators => operators.all fun o => holds o.1 o.2 text
  | _ => false

/-- A document satisfies all conditions of a filter. A condition on a field that is no text is not
satisfied. -/
def satisfies (filter d : BsonDocument) : Bool :=
  filter.all fun f => (Bson.text? d f.1).any (admits f.2)

/-- What a query finds: the documents that satisfy its filter, sorted by the texts of the field that
it names. In which order others come is left open. -/
structure Found (filter sort : BsonDocument) (content found : List BsonDocument) : Prop where
  perm : found.Perm (content.filter (satisfies filter))
  sorted : ∀ field, sort = [(field, .integer 1)] → found.Pairwise fun a b =>
    ∀ s t, Bson.text? a field = some s → Bson.text? b field = some t → Text.octets s ≤ Text.octets t

/-- Two documents hold the same values, in whatever order their fields stand. -/
def SameFields (d d' : BsonDocument) : Prop := ∀ field, d.lookup field = d'.lookup field

/-! ## Updates -/

/-- The operator `$inc` on a field: a missing number is made, an integer is added to while the sum
fits into 64 bits. -/
def increase? (d : BsonDocument) (field : String) (operand : Bson) : Option BsonDocument :=
  match d.lookup field, operand with
  | none, .integer n => some (Toml.put field (.integer n) d)
  | some (.integer m), .integer n =>
    (Signed64.add? m n).map fun sum => Toml.put field (.integer sum) d
  | _, _ => none

/-- The document with fields set. -/
def setAll (fields d : BsonDocument) : BsonDocument :=
  fields.foldl (fun d f => Toml.put f.1 f.2 d) d

/-- What an operator of an update makes of a document, which may be a fresh one. -/
def operate? (fresh : Bool) (d : BsonDocument) (operator : String × Bson) : Option BsonDocument :=
  match operator with
  | ("$inc", .document fields) => fields.foldlM (fun d f => increase? d f.1 f.2) d
  | ("$setOnInsert", .document fields) => some (if fresh then setAll fields d else d)
  | ("$set", .document fields) => some (setAll fields d)
  | _ => none

/-- What all operators make of a document. -/
def change? (fresh : Bool) (operators d : BsonDocument) : Option BsonDocument :=
  operators.foldlM (operate? fresh) d

/-- The fields that a filter wants to be equal to something. -/
def equalities (filter : BsonDocument) : BsonDocument :=
  filter.filter fun f => match f.2 with
    | .document _ => false
    | _ => true

/-- Changes the first document that satisfies a filter. If there is none, inserts a document with an
id, the fields that the filter wants to be equal to something, and the change made to it. -/
def upsert? (id : Bson) (filter operators : BsonDocument) :
    List BsonDocument → Option (List BsonDocument)
  | [] => (change? true operators (("_id", id) :: equalities filter)).map ([·])
  | d :: rest =>
    if satisfies filter d then (change? false operators d).map (· :: rest)
    else (upsert? id filter operators rest).map (d :: ·)

section Upsert

variable {id : Bson} {filter operators d : BsonDocument} {before after : List BsonDocument}

theorem upsert?_of_none (h : ∀ d ∈ before, satisfies filter d = false) :
    upsert? id filter operators before =
      (change? true operators (("_id", id) :: equalities filter)).map fun d => before ++ [d] := by
  induction before with
  | nil => rfl
  | cons d before ih =>
      rw [upsert?, if_neg (by simp [h d List.mem_cons_self]),
        ih fun x hx => h x (List.mem_cons_of_mem _ hx), Option.map_map]
      rfl

theorem upsert?_of_some (h : ∀ d ∈ before, satisfies filter d = false)
    (hd : satisfies filter d = true) :
    upsert? id filter operators (before ++ d :: after) =
      (change? false operators d).map fun d' => before ++ d' :: after := by
  induction before with
  | nil => rw [List.nil_append, upsert?, if_pos hd]; rfl
  | cons x before ih =>
      rw [List.cons_append, upsert?, if_neg (by simp [h x List.mem_cons_self]),
        ih fun y hy => h y (List.mem_cons_of_mem _ hy), Option.map_map]
      rfl

end Upsert

/-- What an index over fields sees of a document. -/
def keyOf (fields : List String) (d : BsonDocument) : List (Option String) :=
  fields.map (Bson.text? d)

/-- No two documents have the same texts in all of some fields. -/
def Distinct (fields : List String) (ds : List BsonDocument) : Prop :=
  (ds.map (keyOf fields)).Nodup

instance (fields : List String) (ds : List BsonDocument) : Decidable (Distinct fields ds) :=
  inferInstanceAs (Decidable (ds.map (keyOf fields)).Nodup)

/-! ## Servers -/

section Server

variable {σ : Type} {c : MongoCollection} {unique : List String}
  {asked made : BsonDocument → BsonDocument → Prop}
  {serve : Instant → (call : RemoteCall) → σ → Outcome call.Reply × σ}
  {stands : σ → List BsonDocument → Prop}
  {owes : Instant → σ → Int → Nat → List BsonDocument → Prop}

/-- What is still to come by a cursor, in at most a number of batches. Without a cursor nothing
comes. -/
def Owed (owes : σ → Int → Nat → List BsonDocument → Prop) (s : σ) (n : Nat)
    (rest : List BsonDocument) : Option Int → Prop
  | none => rest = []
  | some cursor => owes s cursor n rest

/-- A server answers what is sent to it about a collection with a unique index as it is documented:
the queries by a filter and a sort that are `asked`, and the updates by a filter and operators that
are `made`. In the state `s` of the server the collection holds the documents `ds` if `stands s ds`,
and at an instant the open cursor `i` still has the documents `rest` to hand out, in at most `n`
batches, if `owes now s i n rest`. -/
structure Answers (c : MongoCollection) (unique : List String)
    (asked made : BsonDocument → BsonDocument → Prop)
    (serve : Instant → (call : RemoteCall) → σ → Outcome call.Reply × σ)
    (stands : σ → List BsonDocument → Prop)
    (owes : Instant → σ → Int → Nat → List BsonDocument → Prop) : Prop where
  stamps : ∀ {s ds} (now : Instant), stands s ds →
    ∃ t s', serve now .stamp s = (.ok t, s') ∧ stands s' ds
  /-- What is handed out holds the same values as what is found. -/
  finds : ∀ {s ds} (now : Instant) {filter sort : BsonDocument}, asked filter sort → stands s ds →
    ∃ batch rest found cursor n s',
      serve now (.mongo (.find c { filter, sort })) s = (.ok (.batch batch cursor), s') ∧
        stands s' ds ∧ Found filter sort ds found ∧
        List.Forall₂ SameFields (batch ++ rest) found ∧ n ≤ Remote.mostBatches ∧
        Owed (owes now) s' n rest cursor
  handsOut : ∀ {s ds i n rest} (now : Instant), stands s ds → owes now s i n rest →
    ∃ batch rest' cursor m s',
      serve now (.mongo (.getMore c i)) s = (.ok (.batch batch cursor), s') ∧
        stands s' ds ∧ rest = batch ++ rest' ∧ m < n ∧ Owed (owes now) s' m rest' cursor
  /-- An update that the operators and the index allow is made, under an id that the server
  chooses. -/
  updates : ∀ {s ds} (now : Instant) {filter operators : BsonDocument}, made filter operators →
    stands s ds → (∀ id, ∃ ds', upsert? id filter operators ds = some ds' ∧
      Distinct unique ds') → ∃ id ds' s', upsert? id filter operators ds = some ds' ∧
        serve now (.mongo (.update c filter operators)) s = (.ok .done, s') ∧ stands s' ds'

/-- A program that gets as many documents as it needs: all of them, or the first one at least. -/
def Suffices (first : Bool) (got all : List BsonDocument) : Prop :=
  (first = false → got = all) ∧ got.head? = all.head?

theorem Suffices.refl (first : Bool) (all : List BsonDocument) : Suffices first all all :=
  ⟨fun _ => rfl, rfl⟩

theorem Suffices.append {first : Bool} {got all : List BsonDocument} (h : Suffices first got all)
    (batch : List BsonDocument) : Suffices first (batch ++ got) (batch ++ all) := by
  refine ⟨fun hf => by rw [h.1 hf], ?_⟩
  rw [List.head?_append, List.head?_append, h.2]

/-- A batch with a document is enough where only the first one is wanted. -/
theorem Suffices.of_batch {first : Bool} {batch : List BsonDocument}
    (h : (first && !batch.isEmpty) = true) (rest : List BsonDocument) :
    Suffices first batch (batch ++ rest) := by
  obtain ⟨hfirst, hbatch⟩ := Bool.and_eq_true_iff.1 h
  refine ⟨fun hf => absurd hfirst (by simp [hf]), ?_⟩
  cases batch with
  | nil => cases hbatch
  | cons d ds => rfl

/-- A cursor is asked for more until it has handed out enough. -/
theorem Answers.run_more (h : Answers c unique asked made serve stands owes) (now : Instant)
    (first : Bool) {s : σ} {ds rest : List BsonDocument} {i : Int} {n room : Nat}
    (hs : stands s ds) (hrest : owes now s i n rest) (hroom : n ≤ room) :
    ∃ got s', Program.run (serve now) (Remote.more c first i room) s = (.ok (.ok got), s') ∧
      stands s' ds ∧ Suffices first got rest := by
  -- every batch leaves fewer to come
  induction room generalizing s i n rest with
  | zero =>
      obtain ⟨_, _, _, m, _, -, -, -, hm, -⟩ := h.handsOut now hs hrest
      omega
  | succ room ih =>
      obtain ⟨batch, rest', cursor, m, s', hserve, hs', rfl, hm, howed⟩ := h.handsOut now hs hrest
      have hrun : Program.run (serve now) (mongo (.getMore c i)) s =
          (.ok (.batch batch cursor), s') := hserve
      rw [Remote.more, Program.run_bind, hrun]
      cases cursor with
      | none =>
          obtain rfl : rest' = [] := howed
          exact ⟨batch, s', rfl, hs', by rw [List.append_nil]; exact .refl first batch⟩
      | some next =>
          dsimp only
          by_cases henough : (first && !batch.isEmpty) = true
          · rw [if_pos henough]
            exact ⟨batch, s', rfl, hs', .of_batch henough rest'⟩
          · obtain ⟨got, s'', hgot, hs'', hsuffices⟩ := ih hs' howed (by omega)
            rw [if_neg henough, Program.run_bind, hgot]
            exact ⟨batch ++ got, s'', rfl, hs'', hsuffices.append batch⟩

/-- A program that asks for documents gets what is found, or the first of it at least. -/
theorem Answers.run_find (h : Answers c unique asked made serve stands owes) (now : Instant)
    {filter sort : BsonDocument} (hasked : asked filter sort) (first : Bool)
    (refused broken : String) {s : σ} {ds : List BsonDocument} (hs : stands s ds) :
    ∃ got all found s',
      Program.run (serve now) (Remote.find c { filter, sort } first refused broken) s =
        (.ok got, s') ∧
        stands s' ds ∧ Found filter sort ds found ∧ List.Forall₂ SameFields all found ∧
        Suffices first got all := by
  obtain ⟨batch, rest, found, cursor, n, s', hserve, hs', hfound, hsame, hn, howed⟩ :=
    h.finds now hasked hs
  have hrun : Program.run (serve now) (mongo (.find c { filter, sort })) s =
      (.ok (.batch batch cursor), s') := hserve
  rw [Remote.find, Program.run_bind, hrun]
  cases cursor with
  | none =>
      obtain rfl : rest = [] := howed
      rw [List.append_nil] at hsame
      exact ⟨batch, batch, found, s', rfl, hs', hfound, hsame, .refl first batch⟩
  | some next =>
      dsimp only
      by_cases henough : (first && !batch.isEmpty) = true
      · rw [if_pos henough]
        exact ⟨batch, _, found, s', rfl, hs', hfound, hsame, .of_batch henough rest⟩
      · obtain ⟨got, s'', hgot, hs'', hsuffices⟩ := h.run_more now first hs' howed hn
        rw [if_neg henough, Program.run_bind, hgot]
        exact ⟨batch ++ got, _, found, s'', rfl, hs'', hfound, hsame, hsuffices.append batch⟩

end Server

/-! ## A server of one collection -/

/-- The content of one collection, and what the open cursor has not handed out yet. -/
structure LoneCollection where
  documents : List BsonDocument := []
  pending : List BsonDocument := []

namespace LoneCollection

/-- The number of documents that come with the reply to a query. -/
def firstBatch : Nat := 101

/-- A sort names a direction for each of its fields. -/
def isSort (sort : BsonDocument) : Bool :=
  sort.all fun key => match key.2 with
    | .integer n => n = 1 || n = -1
    | _ => false

/-- The names of the fields that operators are about. -/
def fieldsOf (operators : BsonDocument) : List String :=
  operators.flatMap fun o => match o.2 with
    | .document fields => fields.map (·.1)
    | _ => []

/-- The first of some names that comes again. -/
def conflict? : List String → Option String
  | [] => none
  | name :: rest => if name ∈ rest then some name else conflict? rest

/-- What is said of an update that changes a field twice. -/
def conflictMessage (field : String) : String :=
  "Updating the path '" ++ field ++ "' would create a conflict at '" ++ field ++ "'"

/-- Documents compared by the texts of a field, those without a text first. -/
def compareField (key : String × Bson) : BsonDocument → BsonDocument → Ordering :=
  match key.2 with
  | .integer 1 => compareOn (Bson.text? · key.1)
  | _ => fun a b => compareOn (Bson.text? · key.1) b a

/-- Documents compared by the fields of a sort, one after another. -/
def compareBy : BsonDocument → BsonDocument → BsonDocument → Ordering
  | [] => fun _ _ => .eq
  | key :: rest => compareLex (compareField key) (compareBy rest)

/-- What a query finds, in order. -/
def found (filter sort : BsonDocument) (ds : List BsonDocument) : List BsonDocument :=
  (ds.filter (satisfies filter)).mergeSort fun a b => (compareBy sort a b).isLE

/-- The reply to a query. -/
def query (q : MongoQuery) (s : LoneCollection) : MongoReply × LoneCollection :=
  let all := found q.filter q.sort s.documents
  if !isSort q.sort then
    (.refused "$sort key ordering must be 1 (for ascending) or -1 (for descending)", s)
  else if all.length ≤ firstBatch then (.batch all none, s)
  else (.batch (all.take firstBatch) (some 1), { s with pending := all.drop firstBatch })

/-- The reply to an update. A new document is named by its number. -/
def update (unique : List String) (filter operators : BsonDocument) (s : LoneCollection) :
    MongoReply × LoneCollection :=
  let id : Bson := .objectId (String.ofList (Text.padded 24 s.documents.length))
  match conflict? (fieldsOf operators), upsert? id filter operators s.documents with
  | some field, _ =>
    (.unwritten (conflictMessage field), s)
  | none, some ds =>
    if Distinct unique ds then (.done, { s with documents := ds })
    else (.unwritten "E11000 duplicate key error", s)
  | none, none => (.unwritten "Failed to apply the operators", s)

/-- What is said of a collection that a server does not show. -/
def hidden : MongoReply := .refused "not authorized"

/-- The server that holds and shows nothing but its collection. -/
def serve (here : MongoCollection) (unique : List String) (now : Instant) :
    (call : RemoteCall) → LoneCollection → Outcome call.Reply × LoneCollection
  | .mongo (.find c q), s =>
    if c = here then (.ok (query q s).1, (query q s).2) else (.ok hidden, s)
  | .mongo (.getMore c i), s =>
    if c = here then
      if i = 1 then (.ok (.batch s.pending none), { s with pending := [] })
      else (.ok (.refused "cursor id not found"), s)
    else (.ok hidden, s)
  | .mongo (.update c filter operators), s =>
    if c = here then
      (.ok (update unique filter operators s).1, (update unique filter operators s).2)
    else (.ok hidden, s)
  | .mongo (.createIndex c _ _), s => (.ok (if c = here then .done else hidden), s)
  | .redis _, s => (.ok (.refused "no server"), s)
  | .now, s => (.ok now, s)
  | .stamp, s => (.ok now, s)
  | .count _ _, s => (.ok (), s)
  | .enter _, s => (.ok true, s)
  | .leave _, s => (.ok (), s)

instance (key : String × Bson) : Std.TransCmp (compareField key) := by
  have hup : Std.TransCmp (compareOn fun d : BsonDocument => Bson.text? d key.1) := inferInstance
  unfold compareField
  split
  · exact hup
  · exact Std.TransCmp.opposite

instance (sort : BsonDocument) : Std.TransCmp (compareBy sort) := by
  induction sort with
  | nil => exact { eq_swap := rfl, isLE_trans := fun _ _ => rfl }
  | cons key rest ih => exact inferInstanceAs (Std.TransCmp (compareLex _ _))

theorem found_found (filter sort : BsonDocument) (ds : List BsonDocument) :
    Found filter sort ds (found filter sort ds) where
  perm := List.mergeSort_perm _ _
  sorted field hsort := by
    subst hsort
    refine (List.pairwise_mergeSort (fun _ _ _ => Std.TransCmp.isLE_trans) (fun a b => ?_) _).imp ?_
    · rw [@Std.OrientedCmp.eq_swap _ (compareBy _) _ b a]
      cases compareBy [(field, .integer 1)] a b <;> rfl
    · intro a b hab s t hs ht
      have hle : (compare (some s) (some t)).isLE = true := by
        simpa [compareBy, compareLex, compareField, compareOn, hs, ht] using hab
      exact of_decide_eq_true ((Text.isLE_compare_iff s t).symm.trans hle)

theorem sameFields_refl (ds : List BsonDocument) : List.Forall₂ SameFields ds ds :=
  List.forall₂_same.2 fun _ _ _ => rfl

/-- A query is answered at once with everything that is found, if that is not too much. -/
theorem query_of_le {q : MongoQuery} {s : LoneCollection} (hsort : isSort q.sort = true)
    (hlength : (found q.filter q.sort s.documents).length ≤ firstBatch) :
    query q s = (.batch (found q.filter q.sort s.documents) none, s) := by
  simp [query, hsort, hlength]

/-- The rest is kept for the cursor. -/
theorem query_of_lt {q : MongoQuery} {s : LoneCollection} (hsort : isSort q.sort = true)
    (hlength : ¬ (found q.filter q.sort s.documents).length ≤ firstBatch) :
    query q s = (.batch ((found q.filter q.sort s.documents).take firstBatch) (some 1),
      { s with pending := (found q.filter q.sort s.documents).drop firstBatch }) := by
  simp [query, hsort, hlength]

section Answers

variable {asked made : BsonDocument → BsonDocument → Prop}

/-- The server that holds nothing but its collection answers as it is documented where sorts name
directions and no field is changed twice. -/
theorem answers_serve (c : MongoCollection) (unique : List String)
    (hasked : ∀ filter sort, asked filter sort → isSort sort = true)
    (hmade : ∀ filter operators, made filter operators →
      conflict? (fieldsOf operators) = none) :
    Answers c unique asked made (serve c unique) (fun s ds => s.documents = ds)
      fun _ s i n rest => s.pending = rest ∧ i = 1 ∧ 0 < n where
  stamps now hs := ⟨now, _, rfl, hs⟩
  finds {s ds} now filter sort hsent hs := by
    subst hs
    have hfound := found_found filter sort s.documents
    have hserve : serve c unique now (.mongo (.find c { filter, sort })) s =
        (.ok (query { filter, sort } s).1, (query { filter, sort } s).2) := if_pos rfl
    have hsort := hasked filter sort hsent
    by_cases hlength : (found filter sort s.documents).length ≤ firstBatch
    · rw [hserve, query_of_le hsort hlength]
      refine ⟨_, [], _, none, 0, s, rfl, rfl, hfound, ?_, Nat.zero_le _, rfl⟩
      rw [List.append_nil]
      exact sameFields_refl _
    · rw [hserve, query_of_lt hsort hlength]
      refine ⟨_, _, _, some 1, 1, _, rfl, rfl, hfound, ?_, ?_, rfl, rfl, Nat.one_pos⟩
      · rw [List.take_append_drop]
        exact sameFields_refl _
      · exact Nat.le_add_left 1 18446744073709551614
  handsOut {s ds i n rest} now hs howes := by
    obtain ⟨rfl, rfl, hn⟩ := howes
    refine ⟨s.pending, [], none, 0, { s with pending := [] }, ?_, hs, (List.append_nil _).symm, hn,
      rfl⟩
    simp [serve]
  updates {s ds} now filter operators hsent hs hallowed := by
    subst hs
    obtain ⟨ds', hds', hunique⟩ :=
      hallowed (.objectId (String.ofList (Text.padded 24 s.documents.length)))
    have hclear := hmade filter operators hsent
    refine ⟨_, ds', { s with documents := ds' }, hds', ?_, rfl⟩
    simp [serve, update, hds', hunique, hclear]

end Answers

end LoneCollection

end Documents

end Presence
