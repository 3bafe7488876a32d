import Mathlib
import Presence.Proofs.FilePlaces

/-!
# What the configuration is made of

A candidate yields the documents of its layers laid one over the other: a folder those of its base
file and of the fragments of its three groups, a file its own. A single layer without a document
leaves the candidate without a value, while a file of the environment without one only costs a
warning. Main statements: `FileTree.value_eq_ok_iff` (what the value of a candidate is, and when
there is one), `Configuration.candidate_eq_ok_iff` (the same for its configuration) and
`Configuration.ofCandidates_layers` (the configuration is that of the first candidate that has one,
with a warning for every candidate before it).
-/

set_option autoImplicit false

namespace Presence

namespace FileTree

variable {t : FileTree} {place : List String} {path : String}

/-! ## Documents laid over one another -/

/-- The document that a place holds: a file stands there, it has a text, and the text is a
document. -/
def Holds (t : FileTree) (place : List String) (v : Toml) : Prop :=
  ∃ text, t.kindAt place = some (.file (some text)) ∧ Toml.read? text = some v

theorem document_eq_ok_iff {v : Toml} :
    t.document path = .ok v ↔
      ∃ text, t.kind? path = some (.file (some text)) ∧ Toml.read? text = some v := by
  unfold document text?
  rcases t.kind? path with - | (- | text) | -
  · simp
  · simp
  · cases hr : Toml.read? text <;> simp [hr]
  · simp

theorem document_located (hl : t.locate? path = some place) {v : Toml} :
    t.document path = .ok v ↔ t.Holds place v := by
  rw [document_eq_ok_iff, kind?, hl]
  rfl

theorem document_in_folder {name : String} (h : IsPlainName name) (hl : t.locate? path = some place)
    (hf : t.kindAt place = some .folder) {v : Toml} :
    t.document (joinPath path name) = .ok v ↔ t.Holds (place ++ [name]) v := by
  rw [document_eq_ok_iff, kind?_in_folder h hl hf]
  rfl

/-- All documents are there, and each is laid over what the ones before it made. -/
theorem overlay_eq_ok_iff {base v : Toml} {paths : List String} :
    t.overlay base paths = .ok v ↔
      ∃ vs, List.Forall₂ (fun path w => t.document path = .ok w) paths vs ∧
        v = vs.foldl Toml.merge base := by
  induction paths generalizing base with
  | nil =>
      simp only [overlay, List.foldlM_nil, List.forall₂_nil_left_iff]
      constructor
      · rintro h
        cases h
        exact ⟨[], rfl, rfl⟩
      · rintro ⟨_, rfl, rfl⟩
        rfl
  | cons path rest ih =>
      have hstep : t.overlay base (path :: rest) =
          (t.document path).bind fun w => t.overlay (base.merge w) rest := by
        unfold overlay
        rw [List.foldlM_cons]
        cases t.document path <;> rfl
      rw [hstep]
      cases hd : t.document path with
      | error e =>
          -- what is missing here is missing among the documents, whatever the others are
          refine iff_of_false (by rintro ⟨⟩) ?_
          rintro ⟨_, hvs, -⟩
          cases hvs with
          | cons hw _ => cases hd.symm.trans hw
      | ok w =>
          refine ih.trans ?_
          constructor
          · rintro ⟨vs, hvs, rfl⟩
            exact ⟨w :: vs, .cons hd hvs, rfl⟩
          · rintro ⟨_, hvs, rfl⟩
            cases hvs with
            | @cons _ w' _ vs hw hvs =>
                obtain rfl : w = w' := Except.ok.inj (hd.symm.trans hw)
                exact ⟨vs, hvs, rfl⟩

theorem overlay_append (base : Toml) (xs ys : List String) :
    t.overlay base (xs ++ ys) = (t.overlay base xs).bind fun v => t.overlay v ys :=
  List.foldlM_append

/-- The paths of all fragments of a folder, group by group. -/
def fragmentPaths (t : FileTree) (path : String) : List String :=
  groups.flatMap fun group => t.fragments (joinPath path group)

/-- Laying one group over the other lays the fragments of all groups over one another. -/
theorem foldlM_overlay (t : FileTree) (path : String) (gs : List String) (base : Toml) :
    gs.foldlM (fun v group => t.overlay v (t.fragments (joinPath path group))) base =
      t.overlay base (gs.flatMap fun group => t.fragments (joinPath path group)) := by
  induction gs generalizing base with
  | nil => rfl
  | cons g gs ih =>
      rw [List.foldlM_cons, List.flatMap_cons, overlay_append]
      exact congrArg _ (funext ih)

theorem folderValue_eq_ok_iff {v : Toml} :
    t.folderValue path = .ok v ↔
      ∃ base, t.document (joinPath path "base.toml") = .ok base ∧
        t.overlay base (t.fragmentPaths path) = .ok v := by
  unfold folderValue fragmentPaths
  dsimp only
  split
  · -- without a base file there is no document of it either
    rename_i hnone
    refine iff_of_false (by rintro ⟨⟩) ?_
    rintro ⟨base, hbase, -⟩
    obtain ⟨text, hk, -⟩ := document_eq_ok_iff.1 hbase
    cases (Option.isNone_iff_eq_none.1 hnone).symm.trans hk
  · cases hb : t.document (joinPath path "base.toml") with
    | error e => exact iff_of_false (by rintro ⟨⟩) (by rintro ⟨_, ⟨⟩, -⟩)
    | ok base =>
        refine (Eq.congr_left (t.foldlM_overlay path groups base)).trans ?_
        constructor
        · exact fun h => ⟨base, rfl, h⟩
        · rintro ⟨_, ⟨⟩, h⟩
          exact h

/-! ## The layers of a candidate -/

/-- The places of the fragments of a group in a folder, in ascending order of the octets of their
names. -/
def GroupLayers (t : FileTree) (place : List String) (group : String)
    (layers : List (List String)) : Prop :=
  ∃ names, t.Fragments (place ++ [group]) names ∧
    layers = names.map fun name => place ++ [group, name]

/-- The places of the layers of a candidate, from the lowest one. -/
inductive Layers (t : FileTree) (path : String) : List (List String) → Prop where
  | folder {place : List String} {shared services overrides : List (List String)} :
      t.locate? path = some place → t.kindAt place = some .folder →
      t.GroupLayers place "shared" shared → t.GroupLayers place "services" services →
      t.GroupLayers place "overrides" overrides →
      Layers t path ((place ++ ["base.toml"]) :: (shared ++ services ++ overrides))
  | file {place : List String} :
      t.locate? path = some place → t.IsFile place → Layers t path [place]

/-- The value of a candidate: every layer holds a document, and each is laid over the ones below. -/
def Yields (t : FileTree) (path : String) (v : Toml) : Prop :=
  ∃ base layers, t.Layers path (base :: layers) ∧
    ∃ w ws, t.Holds base w ∧ List.Forall₂ t.Holds layers ws ∧ v = ws.foldl Toml.merge w

/-- The fragments of a group are found at their places. -/
theorem WellFormed.located (ht : t.WellFormed) (hl : t.locate? path = some place)
    (hf : t.kindAt place = some .folder) {group : String} (hg : IsPlainName group)
    {layers : List (List String)} (hlayers : t.GroupLayers place group layers) :
    List.Forall₂ (fun path place => t.locate? path = some place)
      (t.fragments (joinPath path group)) layers := by
  obtain ⟨names, hn, rfl⟩ := hlayers
  have hgroup := locate?_in_folder hg hl hf
  by_cases hk : t.kindAt (place ++ [group]) = some .folder
  · rw [hk, Option.isSome_some, if_pos rfl] at hgroup
    rw [ht.fragments_eq hgroup hn, List.forall₂_map_left_iff, List.forall₂_map_right_iff,
      List.forall₂_same]
    intro name hname
    obtain ⟨-, hfile, -⟩ := (hn.mem_iff name).1 hname
    rw [locate?_in_folder (ht.isPlainName hfile) hgroup hk]
    obtain ⟨text, htext⟩ := hfile
    rw [htext]
    simp
  · -- what is no folder is passed over, be it a file or nothing at all
    rw [hn.eq_nil hk, List.map_nil, List.forall₂_nil_right_iff]
    unfold fragments
    rw [hgroup]
    split
    · rename_i q hq
      split at hq
      · cases hq
        exact if_neg hk
      · cases hq
    · rfl

theorem WellFormed.exists_groupLayers (ht : t.WellFormed) (place : List String) (group : String) :
    ∃ layers, t.GroupLayers place group layers := by
  by_cases hk : t.kindAt (place ++ [group]) = some .folder
  · exact ⟨_, _, ht.fragments_namesIn hk, rfl⟩
  · exact ⟨_, [], fragments_nil hk, rfl⟩

/-- Documents at paths are those at the places the paths lead to. -/
theorem forall₂_document_iff {paths : List String} {places : List (List String)} {vs : List Toml}
    (h : List.Forall₂ (fun path place => t.locate? path = some place) paths places) :
    List.Forall₂ (fun path v => t.document path = .ok v) paths vs ↔
      List.Forall₂ t.Holds places vs := by
  induction h generalizing vs with
  | nil => rw [List.forall₂_nil_left_iff, List.forall₂_nil_left_iff]
  | cons hl _ ih => simp only [List.forall₂_cons_left_iff, document_located hl, ih]

theorem WellFormed.fragmentPaths_located (ht : t.WellFormed) (hl : t.locate? path = some place)
    (hf : t.kindAt place = some .folder) {shared services overrides : List (List String)}
    (h₁ : t.GroupLayers place "shared" shared) (h₂ : t.GroupLayers place "services" services)
    (h₃ : t.GroupLayers place "overrides" overrides) :
    List.Forall₂ (fun path place => t.locate? path = some place) (t.fragmentPaths path)
      (shared ++ services ++ overrides) := by
  have hparts : t.fragmentPaths path = t.fragments (joinPath path "shared") ++
      t.fragments (joinPath path "services") ++ t.fragments (joinPath path "overrides") := by
    simp only [fragmentPaths, groups, List.flatMap_cons, List.flatMap_nil, List.append_nil,
      List.append_assoc]
  rw [hparts]
  exact List.rel_append (List.rel_append (ht.located hl hf (by decide) h₁)
    (ht.located hl hf (by decide) h₂)) (ht.located hl hf (by decide) h₃)

theorem folderValue_yields (ht : t.WellFormed) (hl : t.locate? path = some place)
    (hf : t.kindAt place = some .folder) {shared services overrides : List (List String)}
    (h₁ : t.GroupLayers place "shared" shared) (h₂ : t.GroupLayers place "services" services)
    (h₃ : t.GroupLayers place "overrides" overrides) {v : Toml} :
    t.folderValue path = .ok v ↔
      ∃ w ws, t.Holds (place ++ ["base.toml"]) w ∧
        List.Forall₂ t.Holds (shared ++ services ++ overrides) ws ∧ v = ws.foldl Toml.merge w := by
  have hbase : IsPlainName "base.toml" := by decide
  simp only [folderValue_eq_ok_iff, document_in_folder hbase hl hf, overlay_eq_ok_iff,
    forall₂_document_iff (ht.fragmentPaths_located hl hf h₁ h₂ h₃), exists_and_left]

/-- The value of a candidate is what its layers make, and there is none if a single layer holds no
document. -/
theorem value_eq_ok_iff (ht : t.WellFormed) {v : Toml} :
    t.value path = .ok v ↔ t.Yields path v := by
  unfold value kind?
  cases hl : t.locate? path with
  | none =>
      refine iff_of_false (by rintro ⟨⟩) ?_
      rintro ⟨base, layers, ⟨hl', -⟩ | ⟨hl', -⟩, -⟩ <;> cases hl.symm.trans hl'
  | some place =>
      rw [Option.bind_some]
      rcases hk : t.kindAt place with - | text | -
      · -- nothing stands there, so there are no layers
        refine iff_of_false (by rintro ⟨⟩) ?_
        rintro ⟨base, layers, ⟨hl', hk', -⟩ | ⟨hl', text, hk'⟩, -⟩ <;> cases hl.symm.trans hl' <;>
          cases hk.symm.trans hk'
      · refine (document_located hl).trans ⟨fun h => ?_, ?_⟩
        · exact ⟨place, [], .file hl ⟨text, hk⟩, v, [], h, .nil, rfl⟩
        · rintro ⟨base, layers, ⟨hl', hk', -⟩ | ⟨hl', -⟩, w, ws, hw, hws, rfl⟩ <;>
            cases hl.symm.trans hl'
          · cases hk.symm.trans hk'
          · cases hws
            exact hw
      · constructor
        · intro h
          obtain ⟨shared, h₁⟩ := ht.exists_groupLayers place "shared"
          obtain ⟨services, h₂⟩ := ht.exists_groupLayers place "services"
          obtain ⟨overrides, h₃⟩ := ht.exists_groupLayers place "overrides"
          exact ⟨_, _, .folder hl hk h₁ h₂ h₃, (folderValue_yields ht hl hk h₁ h₂ h₃).1 h⟩
        · rintro ⟨base, layers, ⟨hl', hk', h₁, h₂, h₃⟩ | ⟨hl', text, hk'⟩, hv⟩ <;>
            cases hl.symm.trans hl'
          · exact (folderValue_yields ht hl hk h₁ h₂ h₃).2 hv
          · cases hk.symm.trans hk'

/-! ## The file of the environment -/

/-- The document of an environment: that of the file in `config/environments` with its name. -/
def Says (t : FileTree) (environment : String) (v : Toml) : Prop :=
  ∃ place, t.locate? ("config/environments/" ++ environment ++ ".toml") = some place ∧
    t.Holds place v

/-- Something stands where the file of an environment belongs, but it is no document. -/
def Spoiled (t : FileTree) (environment : String) : Prop :=
  (t.kind? ("config/environments/" ++ environment ++ ".toml")).isSome ∧
    ∀ v, ¬ t.Says environment v

/-- A value with what an environment says laid over it. Where the environment says nothing, also
because its file is spoiled, the value is as it was. -/
inductive Overlaid (t : FileTree) (environment : String) (v : Toml) : Toml → Prop where
  | laid {e : Toml} : t.Says environment e → Overlaid t environment v (v.merge e)
  | kept : (∀ e, ¬ t.Says environment e) → Overlaid t environment v v

theorem says_iff {environment : String} {v : Toml} :
    t.Says environment v ↔
      ∃ text, t.kind? (environmentPath environment) = some (.file (some text)) ∧
        Toml.read? text = some v := by
  unfold Says Holds kind? environmentPath
  cases t.locate? ("config/environments/" ++ environment ++ ".toml") <;> simp

/-- The file of an environment is laid over the value. Where it is no document the value stays, and
this is an error if something stands there. -/
theorem mergeFile_cases (t : FileTree) (environment : String) (v : Toml) :
    (∃ e, t.Says environment e ∧ t.mergeFile v (environmentPath environment) = .ok (v.merge e)) ∨
    ((∀ e, ¬ t.Says environment e) ∧
      (¬ t.Spoiled environment ∧ t.mergeFile v (environmentPath environment) = .ok v ∨
        t.Spoiled environment ∧
          ∃ e, t.mergeFile v (environmentPath environment) = .error e)) := by
  have hspoiled : t.Spoiled environment ↔
      (t.kind? (environmentPath environment)).isSome ∧ ∀ v, ¬ t.Says environment v := Iff.rfl
  rw [hspoiled]
  unfold mergeFile text?
  simp only [says_iff]
  rcases t.kind? (environmentPath environment) with - | (- | text) | -
  · exact .inr (by simp)
  · exact .inr (by simp)
  · cases hr : Toml.read? text with
    | none => exact .inr (by simp [hr])
    | some e => exact .inl ⟨e, ⟨text, rfl, hr⟩, by simp [hr]⟩
  · exact .inr (by simp)

theorem Says.unique {environment : String} {v w : Toml} (hv : t.Says environment v)
    (hw : t.Says environment w) : v = w := by
  obtain ⟨text, hk, hr⟩ := says_iff.1 hv
  obtain ⟨text', hk', hr'⟩ := says_iff.1 hw
  cases hk.symm.trans hk'
  exact Option.some.inj (hr.symm.trans hr')

end FileTree

namespace Configuration

open FileTree

variable {t : FileTree} {environment path : String}

/-! ## The configuration of a candidate -/

/-- The configuration of a candidate: what its value is with the environment laid over it. -/
def IsOf (t : FileTree) (environment path : String) (c : Configuration) : Prop :=
  ∃ v w, t.Yields path v ∧ t.Overlaid environment v w ∧ ofToml? w = some c

/-- What is laid over a value is what the file of the environment leaves of it. -/
theorem overlaid_iff {v w : Toml} :
    t.Overlaid environment v w ↔
      w = (t.mergeFile v (environmentPath environment)).toOption.getD v := by
  rcases mergeFile_cases t environment v with ⟨e, he, h⟩ | ⟨hno, h⟩
  · rw [h]
    constructor
    · rintro (he' | hno)
      · rw [he'.unique he]
        rfl
      · exact absurd he (hno e)
    · rintro rfl
      exact .laid he
  · have hkept : (t.mergeFile v (environmentPath environment)).toOption.getD v = v := by
      rcases h with ⟨-, h⟩ | ⟨-, e, h⟩ <;> rw [h] <;> rfl
    rw [hkept]
    constructor
    · rintro (he | -)
      · exact absurd he (hno _)
      · rfl
    · rintro rfl
      exact .kept hno

theorem finish_eq_ok_iff {v : Toml} {c : Configuration} :
    (finish t environment v).1 = .ok c ↔ ∃ w, t.Overlaid environment v w ∧ ofToml? w = some c := by
  simp only [overlaid_iff, exists_eq_left]
  unfold finish
  cases t.mergeFile v (environmentPath environment) <;> dsimp only [Except.toOption] <;>
    (split <;> simp_all)

/-- A candidate has the configuration that its layers and the environment make, if they make one. -/
theorem candidate_eq_ok_iff (ht : t.WellFormed) (environment path : String) (c : Configuration) :
    (candidate t environment path).1 = .ok c ↔ IsOf t environment path c := by
  unfold candidate IsOf
  simp only [← value_eq_ok_iff ht]
  cases t.value path with
  | error e => simp
  | ok v => simp [finish_eq_ok_iff]

/-! ## Warnings -/

/-- The candidate that a warning says has failed. -/
def failed? : LoadWarning → Option String
  | .candidate path _ => some path
  | _ => none

/-- A warning about the file of the environment. -/
def isAboutEnvironment : LoadWarning → Bool
  | .environment _ => true
  | _ => false

theorem finish_warnings (t : FileTree) (environment : String) (v : Toml) :
    ¬ t.Spoiled environment ∧ (finish t environment v).2 = [] ∨
    t.Spoiled environment ∧ ∃ e, (finish t environment v).2 = [.environment e] := by
  have hclear : ∀ e, t.Says environment e → ¬ t.Spoiled environment := fun e he hs => hs.2 e he
  unfold finish
  rcases mergeFile_cases t environment v with ⟨e, he, h⟩ | ⟨-, ⟨hs, h⟩ | ⟨hs, e, h⟩⟩ <;> rw [h] <;>
    dsimp only
  · exact .inl ⟨hclear e he, by split <;> rfl⟩
  · exact .inl ⟨hs, by split <;> rfl⟩
  · exact .inr ⟨hs, e, by split <;> rfl⟩

/-- A candidate that has a value warns of a spoiled file of the environment, and of nothing else. -/
theorem candidate_warnings (ht : t.WellFormed) (environment path : String) :
    ¬ (t.Spoiled environment ∧ ∃ v, t.Yields path v) ∧ (candidate t environment path).2 = [] ∨
    (t.Spoiled environment ∧ ∃ v, t.Yields path v) ∧
      ∃ e, (candidate t environment path).2 = [.environment e] := by
  unfold candidate
  simp only [← value_eq_ok_iff ht]
  cases t.value path with
  | error e => simp
  | ok v => simpa using finish_warnings t environment v

open Classical in
/-- The warnings of a load that tried some candidates in vain and then came to the rest. -/
structure Warns (t : FileTree) (environment : String) (failed rest : List String)
    (warnings : List LoadWarning) : Prop where
  /-- One for every candidate that was tried in vain, in the order of the candidates. -/
  failed_eq : warnings.filterMap failed? = failed
  /-- That the standard configuration stands in, where no candidate is left. -/
  fallback_iff : .fallback ∈ warnings ↔ rest = []
  /-- A spoiled file of the environment, for every candidate tried that has a value. -/
  environment_count : warnings.countP isAboutEnvironment =
    (failed ++ rest.take 1).countP fun path =>
      decide (t.Spoiled environment ∧ ∃ v, t.Yields path v)

theorem warns_fallback : Warns t environment [] [] [.fallback] where
  failed_eq := rfl
  fallback_iff := by simp
  environment_count := rfl

/-- What a candidate itself warns of is what a load warns of that stops there. -/
theorem Warns.first (ht : t.WellFormed) (environment path : String) (rest : List String) :
    Warns t environment [] (path :: rest) (candidate t environment path).2 := by
  rcases candidate_warnings ht environment path with ⟨hno, h⟩ | ⟨hspoiled, e, h⟩ <;> rw [h]
  · exact ⟨rfl, by simp, by simp [hno]⟩
  · exact ⟨rfl, by simp, by simp [isAboutEnvironment, hspoiled]⟩

theorem Warns.later (ht : t.WellFormed) {failed rest : List String} {later : List LoadWarning}
    (h : Warns t environment failed rest later) (path : String) (e : LoadError) :
    Warns t environment (path :: failed) rest
      ((candidate t environment path).2 ++ .candidate path e :: later) where
  failed_eq := by
    rw [List.filterMap_append, (Warns.first ht _ _ []).failed_eq,
      List.filterMap_cons_some (show failed? (.candidate path e) = some path from rfl), h.failed_eq,
      List.nil_append]
  fallback_iff := by simp [(Warns.first ht environment path []).fallback_iff, h.fallback_iff]
  environment_count := by
    rw [List.countP_append, (Warns.first ht _ _ []).environment_count,
      List.countP_cons_of_neg (by exact Bool.false_ne_true), h.environment_count,
      ← List.countP_append]
    rfl

/-- The configuration is that of the first candidate that has one, whatever the candidates before it
hold, and the standard one where none has. -/
theorem ofCandidates_first (ht : t.WellFormed) (environment : String) (paths : List String) :
    ∃ failed rest, paths = failed ++ rest ∧
      (∀ path ∈ failed, ∀ c, ¬ IsOf t environment path c) ∧
      (∀ path ∈ rest.head?, IsOf t environment path (ofCandidates t environment paths).1) ∧
      (rest = [] → (ofCandidates t environment paths).1 = {}) ∧
      Warns t environment failed rest (ofCandidates t environment paths).2 := by
  induction paths with
  | nil => exact ⟨[], [], rfl, by simp, by simp, fun _ => rfl, warns_fallback⟩
  | cons path rest ih =>
      have hiff := candidate_eq_ok_iff ht environment path
      unfold ofCandidates
      rcases hc : candidate t environment path with ⟨e | c, own⟩
      · -- the rest decides, and nothing of this candidate is left but its warnings
        obtain ⟨failed, rest', hpaths, hfailed, hhead, hnone, hwarns⟩ := ih
        refine ⟨path :: failed, rest', by rw [hpaths, List.cons_append], ?_, hhead, hnone, ?_⟩
        · refine List.forall_mem_cons.2 ⟨fun c hc' => ?_, hfailed⟩
          rw [← hiff, hc] at hc'
          cases hc'
        · have hlater := hwarns.later ht path e
          rw [hc] at hlater
          exact hlater
      · refine ⟨[], path :: rest, rfl, by simp, ?_, by simp, ?_⟩
        · simpa using (hiff c).1 (by rw [hc])
        · have hfirst := Warns.first ht environment path rest
          rw [hc] at hfirst
          exact hfirst

/-- A candidate has a configuration exactly if its layers, one over the other and under the file of
the environment, make one. Of any list of candidates the first one that has a configuration gives
it, and where none has the standard configuration stands in. -/
theorem ofCandidates_layers (ht : t.WellFormed) (name : Option String) :
    let e := name.getD "development"
    (∀ path c, (candidate t (Configuration.environment name) path).1 = .ok c ↔ IsOf t e path c) ∧
    (∀ paths, ∃ failed rest, paths = failed ++ rest ∧
      (∀ path ∈ failed, ∀ c, ¬ IsOf t e path c) ∧
      (∀ path ∈ rest.head?,
        IsOf t e path (ofCandidates t (Configuration.environment name) paths).1) ∧
      (rest = [] → (ofCandidates t (Configuration.environment name) paths).1 = {}) ∧
      Warns t e failed rest (ofCandidates t (Configuration.environment name) paths).2) ∧
    load t (Configuration.environment name) none =
      ofCandidates t (Configuration.environment name) ["config", "config.toml"] := by
  intro e
  exact ⟨candidate_eq_ok_iff ht e, ofCandidates_first ht e, rfl⟩

/-- A folder with a broken fragment, a whole one where the program works, an environment whose file
is no document, and one with a version of its own. -/
def brokenFirst : FileTree where
  files := [(["etc", "flare", "base.toml"], some "[service]\nname = \"local\""),
    (["etc", "flare", "overrides", "late.toml"], some "= 1"),
    (["srv", "config", "base.toml"], some "[service]\nname = \"base\"\nversion = \"1\""),
    (["srv", "config", "services", "names.TOML"], some "[service]\nversion = \"2\""),
    (["srv", "config", "overrides", "notes.txt"], none),
    (["srv", "config", "environments", "development.toml"], none),
    (["srv", "config", "environments", "production.toml"], some "[service]\nversion = \"3\"")]
  working := ["srv"]

/-- A service under the name of the whole folder, in a version. -/
def baseService (version : String) : Toml :=
  .table [("service", .table [("name", .string "base"), ("version", .string version)])]

theorem brokenFirst_yields : brokenFirst.Yields "config" (baseService "2") := by
  have ht : brokenFirst.WellFormed := by decide +kernel
  have hservices : brokenFirst.Fragments ["srv", "config", "services"] ["names.TOML"] := by
    have hf : brokenFirst.kindAt ["srv", "config", "services"] = some .folder := by decide +kernel
    have hnames : (brokenFirst.namesIn ["srv", "config", "services"]).filter isFragment =
        ["names.TOML"] := by decide +kernel
    have h := ht.fragments_namesIn hf
    rwa [hnames] at h
  have hoverrides : brokenFirst.Fragments ["srv", "config", "overrides"] [] := by
    have hf : brokenFirst.kindAt ["srv", "config", "overrides"] = some .folder := by decide +kernel
    have hnames : (brokenFirst.namesIn ["srv", "config", "overrides"]).filter isFragment = [] := by
      decide +kernel
    have h := ht.fragments_namesIn hf
    rwa [hnames] at h
  have hplace : brokenFirst.locate? "config" = some ["srv", "config"] := by decide +kernel
  have hfolder : brokenFirst.kindAt ["srv", "config"] = some .folder := by decide +kernel
  have hshared : brokenFirst.Fragments ["srv", "config", "shared"] [] :=
    fragments_nil (by decide +kernel)
  refine ⟨_, _, .folder hplace hfolder ⟨_, hshared, rfl⟩ ⟨_, hservices, rfl⟩ ⟨_, hoverrides, rfl⟩,
    ?_⟩
  refine ⟨baseService "1", [.table [("service", .table [("version", .string "2")])]], ?_,
    .cons ?_ .nil, by cbv⟩
  · exact ⟨_, rfl, by cbv⟩
  · exact ⟨_, rfl, by cbv⟩

/-- The file of the one environment is laid over the value, and that of the other one leaves it. -/
theorem brokenFirst_overlaid :
    brokenFirst.Overlaid "production" (baseService "2") (baseService "3") ∧
      brokenFirst.Overlaid "development" (baseService "2") (baseService "2") := by
  constructor
  · have hsays : brokenFirst.Says "production"
        (.table [("service", .table [("version", .string "3")])]) :=
      ⟨["srv", "config", "environments", "production.toml"], by decide +kernel, _, rfl, by cbv⟩
    have hmerge : (baseService "2").merge
        (.table [("service", .table [("version", .string "3")])]) = baseService "3" := by cbv
    exact hmerge ▸ .laid hsays
  · refine .kept fun e he => ?_
    obtain ⟨text, hk, -⟩ := says_iff.1 he
    have hspoiled : brokenFirst.kind? (environmentPath "development") = some (.file none) := by
      decide +kernel
    cases hspoiled.symm.trans hk

/-- Where the first of two candidates has no configuration and the second one has, the load stops at
the second one. -/
theorem isOf_second {e first second : String} {c result : Configuration}
    (hfirst : ∀ c, ¬ IsOf t e first c) (hsecond : IsOf t e second c)
    {failed rest : List String} (hpaths : [first, second] = failed ++ rest)
    (hfailed : ∀ path ∈ failed, ∀ c, ¬ IsOf t e path c)
    (hhead : ∀ path ∈ rest.head?, IsOf t e path result) : IsOf t e second result := by
  rcases failed with - | ⟨p, - | ⟨q, more⟩⟩
  · rw [List.nil_append] at hpaths
    exact absurd (hhead first (by rw [← hpaths]; rfl)) (hfirst _)
  · obtain ⟨rfl, rfl⟩ : first = p ∧ [second] = rest := by simpa using hpaths
    exact hhead second rfl
  · obtain ⟨-, rfl, -⟩ : first = p ∧ second = q ∧ [] = more ++ rest := by simpa using hpaths
    exact absurd hsecond (hfailed second (by simp) c)

theorem ofCandidates_layers_brokenFirst :
    brokenFirst.WellFormed ∧
    (∀ c, ¬ IsOf brokenFirst "production" "/etc/flare" c) ∧
    (ofCandidates brokenFirst "production" ["/etc/flare", "config"]).1.service =
      { name := "base", version := "3" } ∧
    (ofCandidates brokenFirst "development" ["/etc/flare", "config"]).1.service =
      { name := "base", version := "2" } := by
  have ht : brokenFirst.WellFormed := by decide +kernel
  obtain ⟨hiff, hload, -⟩ := ofCandidates_layers ht (some "production")
  obtain ⟨hstandard, hload', -⟩ := ofCandidates_layers ht none
  have hbroken : ∀ e c, (candidate brokenFirst e "/etc/flare").1 ≠ .ok c := by
    intro e c hc
    have hvalue : (brokenFirst.value "/etc/flare").isOk = false := by decide +kernel
    unfold candidate at hc
    cases hv : brokenFirst.value "/etc/flare" with
    | error => rw [hv] at hc; cases hc
    | ok v => rw [hv] at hvalue; cases hvalue
  have hservice : ∀ version, (ofToml? (baseService version)).map (·.service) =
      some { name := "base", version } := by
    intro version
    cbv
  obtain ⟨c, hc, hcservice⟩ := Option.map_eq_some_iff.1 (hservice "3")
  obtain ⟨c', hc', hcservice'⟩ := Option.map_eq_some_iff.1 (hservice "2")
  have hconfig : IsOf brokenFirst "production" "config" c :=
    ⟨_, _, brokenFirst_yields, brokenFirst_overlaid.1, hc⟩
  have hconfig' : IsOf brokenFirst "development" "config" c' :=
    ⟨_, _, brokenFirst_yields, brokenFirst_overlaid.2, hc'⟩
  obtain ⟨failed, rest, hpaths, hfailed, hhead, -⟩ := hload ["/etc/flare", "config"]
  obtain ⟨failed', rest', hpaths', hfailed', hhead', -⟩ := hload' ["/etc/flare", "config"]
  have hnone : ∀ c, ¬ IsOf brokenFirst "production" "/etc/flare" c := fun c h =>
    hbroken _ c ((hiff _ c).2 h)
  have hnone' : ∀ c, ¬ IsOf brokenFirst "development" "/etc/flare" c := fun c h =>
    hbroken _ c ((hstandard _ c).2 h)
  have hresult := isOf_second hnone hconfig hpaths hfailed hhead
  have hresult' := isOf_second hnone' hconfig' hpaths' hfailed' hhead'
  refine ⟨ht, hnone, ?_, ?_⟩
  · cases ((hiff "config" _).2 hresult).symm.trans ((hiff "config" _).2 hconfig)
    exact hcservice
  · cases ((hstandard "config" _).2 hresult').symm.trans ((hstandard "config" _).2 hconfig')
    exact hcservice'

end Configuration

end Presence
