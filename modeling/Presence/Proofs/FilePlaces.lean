import Mathlib.Data.List.Sort
import Presence.Configuration.Load
import Presence.Proofs.OctetOrder

/-!
# Places of a file tree

A path is followed through a tree name by name. Main statements: a path with a name at its end leads
to this name in the folder of the path (`FileTree.locate?_joinPath`), a name is that of a fragment
exactly if it ends in `.toml`, in letters of either case, after something else (`isFragment_iff`),
and the fragments that are read in a folder are the files directly in it with such names, each once
and in the order of the octets of their names (`FileTree.WellFormed.fragments_eq`).
-/

set_option autoImplicit false

namespace Presence

/-! ## Names on a path -/

/-- A name that something in a folder can have. -/
structure IsPlainName (name : String) : Prop where
  ne_empty : name ≠ ""
  ne_dot : name ≠ "."
  ne_dots : name ≠ ".."
  no_stroke : '/' ∉ name.toList

instance (name : String) : Decidable (IsPlainName name) :=
  decidable_of_iff (name ≠ "" ∧ name ≠ "." ∧ name ≠ ".." ∧ '/' ∉ name.toList)
    ⟨fun ⟨h₁, h₂, h₃, h₄⟩ => ⟨h₁, h₂, h₃, h₄⟩, fun ⟨h₁, h₂, h₃, h₄⟩ => ⟨h₁, h₂, h₃, h₄⟩⟩

theorem pathNames_of_no_stroke {name : String} (h : '/' ∉ name.toList) :
    pathNames name = [name] := by
  unfold pathNames
  rw [List.splitOn_eq_singleton h, List.map_singleton, String.ofList_toList]

/-- The names on both sides of a stroke. -/
theorem pathNames_stroke (xs ys : List Char) :
    pathNames (String.ofList (xs ++ '/' :: ys)) =
      pathNames (String.ofList xs) ++ pathNames (String.ofList ys) := by
  unfold pathNames
  rw [String.toList_ofList, List.splitOn_append_cons_self, List.map_append, String.toList_ofList,
    String.toList_ofList]

/-- A name at the end of a path follows the names on the path, of which the last one may be
empty. -/
theorem pathNames_joinPath (path : String) {name : String} (h : '/' ∉ name.toList) :
    ∃ names, pathNames (joinPath path name) = names ++ [name] ∧
      (pathNames path = names ∨ pathNames path = names ++ [""]) := by
  unfold joinPath
  split
  · rename_i hlast
    obtain ⟨xs, hxs⟩ := List.getLast?_eq_some_iff.1 hlast
    have hpath : path = String.ofList (xs ++ ['/']) := by rw [← hxs, String.ofList_toList]
    have hjoin : path ++ name = String.ofList (xs ++ '/' :: name.toList) := by
      apply String.toList_injective
      rw [String.toList_append, hxs, String.toList_ofList, List.append_assoc, List.singleton_append]
    refine ⟨pathNames (String.ofList xs), ?_, .inr ?_⟩
    · rw [hjoin, pathNames_stroke, String.ofList_toList, pathNames_of_no_stroke h]
    · rw [hpath, pathNames_stroke]
      rfl
  · refine ⟨pathNames path, ?_, .inl rfl⟩
    have hjoin : path ++ "/" ++ name = String.ofList (path.toList ++ '/' :: name.toList) := by
      apply String.toList_injective
      simp [String.toList_append]
    rw [hjoin, pathNames_stroke, String.ofList_toList, String.ofList_toList,
      pathNames_of_no_stroke h]

/-! ## The part of a name after its last dot -/

theorem exists_last_dot {cs : List Char} (h : '.' ∈ cs) :
    ∃ xs ys, cs = xs ++ '.' :: ys ∧ '.' ∉ ys := by
  induction cs with
  | nil => cases h
  | cons c cs ih =>
      by_cases hc : '.' ∈ cs
      · obtain ⟨xs, ys, rfl, hys⟩ := ih hc
        exact ⟨c :: xs, ys, rfl, hys⟩
      · obtain rfl : '.' = c := by simpa [hc] using h
        exact ⟨[], cs, rfl, hc⟩

theorem extension?_of_no_dot {name : String} (h : '.' ∉ name.toList) : extension? name = none := by
  unfold extension?
  rw [List.splitOn_eq_singleton h]
  rfl

theorem extension?_of_last_dot (xs : List Char) {ys : List Char} (h : '.' ∉ ys) :
    extension? (String.ofList (xs ++ '.' :: ys)) =
      if xs = [] then none else some (String.ofList ys) := by
  unfold extension?
  rw [String.toList_ofList, List.splitOn_append_cons_self, List.splitOn_eq_singleton h]
  by_cases hx : '.' ∈ xs
  · -- with another dot before it, something always precedes
    obtain ⟨us, vs, rfl, hvs⟩ := exists_last_dot hx
    rw [List.splitOn_append_cons_self, List.splitOn_eq_singleton hvs, if_neg (by simp)]
    cases hu : us.splitOn '.' with
    | nil => exact absurd hu (List.splitOn_ne_nil _ _)
    | cons first more => simp
  · rw [List.splitOn_eq_singleton hx]
    cases xs <;> rfl

/-- The extension of a name follows its last dot, and something precedes this dot. -/
theorem extension?_eq_some_iff {name ext : String} :
    extension? name = some ext ↔
      ∃ stem, stem ≠ "" ∧ '.' ∉ ext.toList ∧ name = stem ++ "." ++ ext := by
  constructor
  · intro h
    by_cases hd : '.' ∈ name.toList
    · obtain ⟨xs, ys, hname, hys⟩ := exists_last_dot hd
      have hparts : name = String.ofList (xs ++ '.' :: ys) := by rw [← hname, String.ofList_toList]
      rw [hparts, extension?_of_last_dot xs hys] at h
      split at h
      · cases h
      · rename_i hxs
        cases h
        refine ⟨String.ofList xs, by simpa using hxs, by simpa using hys, ?_⟩
        rw [hparts, ← String.toList_inj]
        simp [String.toList_append]
    · rw [extension?_of_no_dot hd] at h
      cases h
  · rintro ⟨stem, hstem, hext, rfl⟩
    have hparts : stem ++ "." ++ ext = String.ofList (stem.toList ++ '.' :: ext.toList) := by
      rw [← String.toList_inj]
      simp [String.toList_append]
    rw [hparts, extension?_of_last_dot _ hext, String.ofList_toList, if_neg]
    exact fun hnil => hstem (String.toList_injective hnil)

/-- A name of a fragment: something, a dot, and `toml` in letters of either case. -/
def IsFragmentName (name : String) : Prop :=
  ∃ stem ext, stem ≠ "" ∧ name = stem ++ "." ++ ext ∧ Text.lowerAscii ext = "toml"

theorem no_dot_of_lowerAscii {ext : String} (h : Text.lowerAscii ext = "toml") :
    '.' ∉ ext.toList := by
  intro hd
  have hlow : '.' ∈ (Text.lowerAscii ext).toList := by
    rw [Text.lowerAscii, String.toList_ofList]
    exact List.mem_map.2 ⟨'.', hd, by decide⟩
  rw [h] at hlow
  exact absurd hlow (by decide)

theorem isFragment_iff {name : String} : FileTree.isFragment name = true ↔ IsFragmentName name := by
  unfold FileTree.isFragment IsFragmentName
  cases he : extension? name with
  | none =>
      refine iff_of_false (by simp) ?_
      rintro ⟨stem, ext, hstem, hname, hext⟩
      rw [extension?_eq_some_iff.2 ⟨stem, hstem, no_dot_of_lowerAscii hext, hname⟩] at he
      cases he
  | some e =>
      rw [decide_eq_true_iff]
      constructor
      · intro hlow
        obtain ⟨stem, hstem, -, hname⟩ := extension?_eq_some_iff.1 he
        exact ⟨stem, e, hstem, hname, hlow⟩
      · rintro ⟨stem, ext, hstem, hname, hext⟩
        rw [extension?_eq_some_iff.2 ⟨stem, hstem, no_dot_of_lowerAscii hext, hname⟩] at he
        cases he
        exact hext

namespace FileTree

variable {t : FileTree} {place : List String} {path name : String}

/-! ## Following a path -/

/-- Following two lists of names one after the other. -/
theorem walk_append (t : FileTree) (place xs ys : List String) :
    t.walk place (xs ++ ys) = (t.walk place xs).bind fun q => t.walk q ys := by
  induction xs generalizing place with
  | nil => rfl
  | cons x rest ih =>
      simp only [List.cons_append, walk]
      cases t.kindAt place with
      | none => rfl
      | some kind =>
          cases kind with
          | file text => rfl
          | folder =>
              dsimp only
              split_ifs
              · exact ih _
              · exact ih _
              · exact ih _
              · rfl

/-- An empty name stays where it is, if this is a folder. -/
theorem walk_empty (t : FileTree) (place : List String) :
    t.walk place [""] = if t.kindAt place = some .folder then some place else none := by
  simp only [walk]
  cases t.kindAt place with
  | none => rfl
  | some kind => cases kind <;> rfl

/-- A plain name leads into a folder, if it stands there. -/
theorem walk_plain (h : IsPlainName name) (t : FileTree) (place : List String) :
    t.walk place [name] =
      if t.kindAt place = some .folder ∧ (t.kindAt (place ++ [name])).isSome then
        some (place ++ [name])
      else none := by
  simp only [walk, h.ne_empty, h.ne_dot, h.ne_dots, or_self, if_false]
  cases t.kindAt place with
  | none => rfl
  | some kind =>
      cases kind with
      | file text => rfl
      | folder => simp

/-- A name at the end of a path does not change where it is followed from. -/
theorem start_joinPath (t : FileTree) (hne : path ≠ "") (name : String) :
    joinPath path name ≠ "" ∧ t.start (joinPath path name) = t.start path := by
  unfold start joinPath
  cases hc : path.toList with
  | nil => exact absurd (String.toList_injective hc) hne
  | cons c cs => split <;> simp [← String.toList_inj, String.toList_append, hc]

theorem locate?_joinPath (h : IsPlainName name) (t : FileTree) (hne : path ≠ "") :
    t.locate? (joinPath path name) = (t.locate? path).bind fun place => t.walk place [name] := by
  obtain ⟨names, hjoin, hnames⟩ := pathNames_joinPath path h.no_stroke
  obtain ⟨hne', hstart⟩ := t.start_joinPath hne name
  unfold locate?
  rw [if_neg hne', if_neg hne, hstart, hjoin, walk_append]
  rcases hnames with hnames | hnames
  · rw [hnames]
  · -- the empty name after a last stroke asks for a folder, as the plain name does
    rw [hnames, walk_append, Option.bind_assoc]
    refine congrArg _ (funext fun place => ?_)
    rw [walk_empty]
    split
    · rfl
    · rename_i hno
      rw [walk_plain h, if_neg fun hf => hno hf.1]
      rfl

/-- A path that leads somewhere is not empty. -/
theorem ne_empty_of_locate? (hl : t.locate? path = some place) : path ≠ "" := by
  rintro rfl
  cases hl

/-- What stands in a folder is found under its name. -/
theorem locate?_in_folder (h : IsPlainName name) (hl : t.locate? path = some place)
    (hf : t.kindAt place = some .folder) :
    t.locate? (joinPath path name) =
      if (t.kindAt (place ++ [name])).isSome then some (place ++ [name]) else none := by
  rw [locate?_joinPath h t (ne_empty_of_locate? hl), hl, Option.bind_some, walk_plain h]
  simp only [hf, true_and]

theorem kind?_in_folder (h : IsPlainName name) (hl : t.locate? path = some place)
    (hf : t.kindAt place = some .folder) :
    t.kind? (joinPath path name) = t.kindAt (place ++ [name]) := by
  unfold kind?
  rw [locate?_in_folder h hl hf]
  cases hk : t.kindAt (place ++ [name]) with
  | none => rfl
  | some kind => exact hk

/-! ## The fragments of a folder -/

/-- A tree as a file system holds it: every place once, and plain names only. -/
structure WellFormed (t : FileTree) : Prop where
  distinct : (t.files.map (·.1)).Nodup
  plain : ∀ f ∈ t.files, ∀ name ∈ f.1, IsPlainName name

instance (t : FileTree) : Decidable t.WellFormed :=
  decidable_of_iff ((t.files.map (·.1)).Nodup ∧ ∀ f ∈ t.files, ∀ name ∈ f.1, IsPlainName name)
    ⟨fun ⟨h₁, h₂⟩ => ⟨h₁, h₂⟩, fun ⟨h₁, h₂⟩ => ⟨h₁, h₂⟩⟩

/-- A file stands at a place, whether or not it holds a text. -/
def IsFile (t : FileTree) (place : List String) : Prop := ∃ text, t.kindAt place = some (.file text)

theorem isFile_iff : t.IsFile place ↔ ∃ text, (place, text) ∈ t.files := by
  unfold IsFile kindAt
  cases h : t.files.lookup place with
  | none =>
      have hnone := List.lookup_eq_none_iff.1 h
      refine iff_of_false ?_ ?_
      · rintro ⟨text, ht⟩
        dsimp only at ht
        split at ht <;> cases ht
      · rintro ⟨text, ht⟩
        simpa using hnone _ ht
  | some text =>
      refine iff_of_true ⟨text, rfl⟩ ⟨text, ?_⟩
      obtain ⟨l₁, l₂, hl, -⟩ := List.lookup_eq_some_iff.1 h
      rw [hl]
      simp

theorem WellFormed.isPlainName (ht : t.WellFormed) (h : t.IsFile (place ++ [name])) :
    IsPlainName name := by
  obtain ⟨text, hf⟩ := isFile_iff.1 h
  exact ht.plain _ hf name (by simp)

theorem mem_namesIn : name ∈ t.namesIn place ↔ t.IsFile (place ++ [name]) := by
  unfold namesIn
  rw [List.mem_mergeSort, List.mem_filterMap, isFile_iff]
  constructor
  · rintro ⟨⟨p, text⟩, hf, hname⟩
    dsimp only at hname
    split at hname
    · split at hname
      · cases hname
        rename_i hp
        exact ⟨text, hp ▸ hf⟩
      · cases hname
    · cases hname
  · rintro ⟨text, hf⟩
    exact ⟨_, hf, by simp⟩

/-- The names in a folder are in the order of their octets, each once. -/
theorem WellFormed.namesIn_pairwise (ht : t.WellFormed) (place : List String) :
    (t.namesIn place).Pairwise fun a b => Text.octets a < Text.octets b := by
  unfold namesIn
  generalize hl : (t.files.filterMap fun f => _) = names
  have hnodup : names.Nodup := by
    rw [← hl]
    refine List.Pairwise.filterMap _ ?_ (List.pairwise_map.1 ht.distinct)
    rintro ⟨p, a⟩ ⟨q, b⟩ hne x hx y hy rfl
    dsimp only at hx hy
    split at hx <;> split at hy <;> simp_all
  have hsorted : (names.mergeSort fun a b => decide (a ≤ b)).Pairwise fun a b => decide (a ≤ b) :=
    List.pairwise_mergeSort (by simpa using fun a b c : String => le_trans)
      (by simpa using fun a b : String => le_total a b) names
  have hnodup' := (List.mergeSort_perm names fun a b : String => decide (a ≤ b)).nodup_iff.2 hnodup
  refine (hsorted.and hnodup').imp fun {a b} hab => ?_
  rw [Text.octets_lt_iff]
  exact lt_of_le_of_ne (of_decide_eq_true hab.1) hab.2

/-- The names of the fragments that stand directly in a folder, in ascending order of their octets.
What is no folder holds none. -/
structure Fragments (t : FileTree) (place names : List String) : Prop where
  mem_iff : ∀ name, name ∈ names ↔
    t.kindAt place = some .folder ∧ t.IsFile (place ++ [name]) ∧ IsFragmentName name
  ascending : names.Pairwise fun a b => Text.octets a < Text.octets b

/-- Membership and order leave one list. -/
theorem Fragments.unique {xs ys : List String} (hx : t.Fragments place xs)
    (hy : t.Fragments place ys) : xs = ys := by
  have hne : ∀ {a b : String}, Text.octets a < Text.octets b → a ≠ b := by
    rintro a _ h rfl
    exact lt_irrefl _ h
  refine List.Perm.eq_of_pairwise (fun a b _ _ hab hba => absurd (hab.trans hba) (lt_irrefl _))
    hx.ascending hy.ascending ?_
  refine (List.perm_ext_iff_of_nodup (hx.ascending.imp hne) (hy.ascending.imp hne)).2 fun name => ?_
  rw [hx.mem_iff, hy.mem_iff]

theorem WellFormed.fragments_namesIn (ht : t.WellFormed) {place : List String}
    (hf : t.kindAt place = some .folder) :
    t.Fragments place ((t.namesIn place).filter isFragment) where
  mem_iff name := by
    rw [List.mem_filter, mem_namesIn, isFragment_iff]
    exact ⟨fun h => ⟨hf, h⟩, And.right⟩
  ascending := (ht.namesIn_pairwise place).filter _

theorem Fragments.eq_nil {names : List String} (h : t.Fragments place names)
    (hf : t.kindAt place ≠ some .folder) : names = [] :=
  List.eq_nil_iff_forall_not_mem.2 fun name hname => hf ((h.mem_iff name).1 hname).1

theorem fragments_nil (hf : t.kindAt place ≠ some .folder) : t.Fragments place [] :=
  ⟨fun name => iff_of_false (by simp) fun h => hf h.1, .nil⟩

/-- The fragments that are read are those of the folder at the path. -/
theorem WellFormed.fragments_eq (ht : t.WellFormed) (hl : t.locate? path = some place)
    {names : List String} (hn : t.Fragments place names) :
    t.fragments path = names.map (joinPath path) := by
  unfold fragments
  rw [hl]
  dsimp only
  split
  · rename_i hf
    rw [(ht.fragments_namesIn hf).unique hn]
  · rename_i hf
    rw [hn.eq_nil hf, List.map_nil]

end FileTree

end Presence
