import Mathlib.Data.List.Basic
import Mathlib.Data.List.Induction
import Presence.Logging

/-!
# What is logged

Of the directives of a filter that match an event the heaviest decides, and of equally heavy ones
the last. Main statements: `LogFilter.admits_iff`, an event is logged exactly if its level is within
that of the directive that decides about it; `LogFilter.read?_spelled`, directives that name a level
and at most a target are read back from the text that spells them, with commas between;
`Logging.admits_of_named`, a log that is set to the name of a level shows the events up to this
level.
-/

set_option autoImplicit false

namespace Presence

namespace LogDirective

/-- A directive gives way to one that is at least as heavy: the length of the target counts first,
then the number of fields. -/
def YieldsTo (b d : LogDirective) : Prop :=
  b.weight.1 < d.weight.1 ∨ b.weight.1 = d.weight.1 ∧ b.weight.2 ≤ d.weight.2

instance (b d : LogDirective) : Decidable (b.YieldsTo d) := inferInstanceAs (Decidable (_ ∨ _))

variable {a b c d x : LogDirective} {best : Option LogDirective}

theorem YieldsTo.refl (d : LogDirective) : d.YieldsTo d := .inr ⟨rfl, Nat.le_refl _⟩

theorem YieldsTo.trans (h : a.YieldsTo b) (h' : b.YieldsTo c) : a.YieldsTo c := by
  unfold YieldsTo at h h' ⊢
  omega

theorem YieldsTo.of_not (h : ¬ a.YieldsTo b) : b.YieldsTo a := by
  unfold YieldsTo at h ⊢
  omega

theorem special_of_yieldsTo (h : b.YieldsTo d) : special (some b) d = some d :=
  if_pos (by simpa [YieldsTo] using h)

theorem special_of_not (h : ¬ b.YieldsTo d) : special (some b) d = some b :=
  if_neg (by simpa [YieldsTo] using h)

end LogDirective

namespace LogFilter

open LogDirective

variable {e : LogEvent} {f before after : LogFilter} {b d x : LogDirective}

/-- A directive decides about an event: it matches, those before it that match give way to it, and
it does not give way to any after it that matches. -/
def Decides (f : LogFilter) (e : LogEvent) (d : LogDirective) : Prop :=
  ∃ before after, f = before ++ d :: after ∧ d.matchesEvent e = true ∧
    (∀ b ∈ before, b.matchesEvent e = true → b.YieldsTo d) ∧
    ∀ a ∈ after, a.matchesEvent e = true → ¬ d.YieldsTo a

/-- The directive that holds after one more was looked at. -/
def keep (e : LogEvent) (best : Option LogDirective) (d : LogDirective) : Option LogDirective :=
  if d.matchesEvent e then special best d else best

/-- The directive that decides, as it is found. -/
def decisive? (f : LogFilter) (e : LogEvent) : Option LogDirective := f.foldl (keep e) none

theorem foldl_filter_eq (f : LogFilter) (e : LogEvent) :
    (f.filter fun d => d.matchesEvent e).foldl special none = f.decisive? e :=
  List.foldl_filter

theorem decisive?_concat (f : LogFilter) (e : LogEvent) (x : LogDirective) :
    decisive? (f ++ [x]) e = keep e (f.decisive? e) x := List.foldl_append

theorem keep_of_matches (h : x.matchesEvent e = true) (best : Option LogDirective) :
    keep e best x = special best x := if_pos h

theorem keep_of_not (h : ¬ x.matchesEvent e = true) (best : Option LogDirective) :
    keep e best x = best := if_neg h

/-- Where one directive more is looked at, it decides if the one before gives way to it. -/
theorem Decides.concat_of_yields (h : f.Decides e b) (hx : x.matchesEvent e = true)
    (hyields : b.YieldsTo x) : Decides (f ++ [x]) e x := by
  obtain ⟨before, after, rfl, hb, hbefore, hafter⟩ := h
  refine ⟨before ++ b :: after, [], rfl, hx, fun a ha hmatch => ?_, by simp⟩
  rcases List.mem_append.1 ha with ha | ha
  · exact (hbefore a ha hmatch).trans hyields
  · rcases List.mem_cons.1 ha with rfl | ha
    · exact hyields
    · exact (YieldsTo.of_not (hafter a ha hmatch)).trans hyields

/-- It does not decide if the one before does not give way, or if it does not match. -/
theorem Decides.concat_of_not (h : f.Decides e b)
    (hx : x.matchesEvent e = true → ¬ b.YieldsTo x) : Decides (f ++ [x]) e b := by
  obtain ⟨before, after, rfl, hb, hbefore, hafter⟩ := h
  refine ⟨before, after ++ [x], by simp, hb, hbefore, fun a ha hmatch => ?_⟩
  rcases List.mem_append.1 ha with ha | ha
  · exact hafter a ha hmatch
  · obtain rfl := List.mem_singleton.1 ha
    exact hx hmatch

/-- What is found decides, and nothing is found only where nothing matches. -/
theorem decides_decisive? (f : LogFilter) (e : LogEvent) :
    match f.decisive? e with
    | some d => f.Decides e d
    | none => ∀ d ∈ f, ¬ d.matchesEvent e = true := by
  -- the induction takes the last directive off, which is looked at last
  induction f using List.reverseRecOn with
  | nil => simp [decisive?]
  | append_singleton f x ih =>
      rw [decisive?_concat]
      by_cases hx : x.matchesEvent e = true
      · rw [keep_of_matches hx]
        cases hbest : decisive? f e with
        | none =>
            rw [hbest] at ih
            exact ⟨f, [], rfl, hx, fun b hb hmatch => absurd hmatch (ih b hb), by simp⟩
        | some b =>
            rw [hbest] at ih
            by_cases hyields : b.YieldsTo x
            · rw [special_of_yieldsTo hyields]
              exact ih.concat_of_yields hx hyields
            · rw [special_of_not hyields]
              exact ih.concat_of_not fun _ => hyields
      · rw [keep_of_not hx]
        cases hbest : decisive? f e with
        | none =>
            rw [hbest] at ih
            intro d hd
            rcases List.mem_append.1 hd with hd | hd
            · exact ih d hd
            · rwa [List.mem_singleton.1 hd]
        | some b =>
            rw [hbest] at ih
            exact ih.concat_of_not fun h => absurd h hx

/-- At most one directive decides. -/
theorem Decides.decisive? (h : f.Decides e d) : f.decisive? e = some d := by
  obtain ⟨before, after, rfl, hd, hbefore, hafter⟩ := h
  have hfirst : LogFilter.decisive? (before ++ [d]) e = some d := by
    have hbest := decides_decisive? before e
    rw [decisive?_concat, keep_of_matches hd]
    cases hb : before.decisive? e with
    | none => rfl
    | some b =>
        rw [hb] at hbest
        obtain ⟨earlier, later, rfl, hmatch, -, -⟩ := hbest
        exact special_of_yieldsTo (hbefore b (List.mem_append_right _ List.mem_cons_self) hmatch)
  -- the directives behind it leave it in its place
  have hkeep : ∀ after : LogFilter, (∀ a ∈ after, a.matchesEvent e = true → ¬ d.YieldsTo a) →
      after.foldl (keep e) (some d) = some d := by
    intro after
    induction after with
    | nil => exact fun _ => rfl
    | cons a after ih =>
        intro h
        obtain ⟨ha, hrest⟩ := List.forall_mem_cons.1 h
        have hone : keep e (some d) a = some d := by
          by_cases hmatch : a.matchesEvent e = true
          · rw [keep_of_matches hmatch, special_of_not (ha hmatch)]
          · exact keep_of_not hmatch _
        rw [List.foldl_cons, hone]
        exact ih hrest
  have hall : LogFilter.decisive? (before ++ d :: after) e =
      after.foldl (keep e) (LogFilter.decisive? (before ++ [d]) e) := by
    rw [List.append_cons]
    exact List.foldl_append
  rw [hall, hfirst]
  exact hkeep after hafter

/-- An event is logged exactly if some directive decides about it and its level is within the one
that the directive names. -/
theorem admits_iff :
    f.admits e = true ↔ ∃ d, f.Decides e d ∧ e.level.rank ≤ d.level.rank := by
  have hdecides := decides_decisive? f e
  unfold admits
  rw [foldl_filter_eq]
  constructor
  · intro h
    cases hfound : f.decisive? e with
    | none =>
        rw [hfound] at h
        cases h
    | some d =>
        rw [hfound] at h hdecides
        exact ⟨d, hdecides, of_decide_eq_true h⟩
  · rintro ⟨d, hd, hlevel⟩
    rw [hd.decisive?]
    exact decide_eq_true hlevel

end LogFilter

/-! ## Directives as texts -/

/-- The name of a level. -/
def LogLevel.name : LogLevel → String
  | .off => "off"
  | .error => "error"
  | .warn => "warn"
  | .info => "info"
  | .debug => "debug"
  | .trace => "trace"

theorem LogLevel.read?_name (l : LogLevel) : LogLevel.read? l.name = some l := by
  cases l <;> decide

theorem LogLevel.name_ne_nil (l : LogLevel) : l.name.toList ≠ [] := by cases l <;> decide

/-- A text without blanks at its ends stays as it is. -/
theorem Text.trimmed_eq_self {cs as bs : List Char} {c d : Char} (hfirst : cs = c :: as)
    (hlast : cs = bs ++ [d]) (hc : Text.isBlank c = false) (hd : Text.isBlank d = false) :
    Text.trimmed cs = cs := by
  have hfront : cs.dropWhile Text.isBlank = cs := by
    rw [hfirst, List.dropWhile_cons, hc]
    rfl
  have hback : cs.reverse.dropWhile Text.isBlank = cs.reverse := by
    rw [hlast, List.reverse_append, List.reverse_singleton, List.singleton_append,
      List.dropWhile_cons, hd]
    rfl
  rw [Text.trimmed, hfront, hback, List.reverse_reverse]

/-- A target that can stand in front of a level: it begins with a character that is no blank and
with which a target can begin, and no character of it has a meaning of its own. -/
structure IsTarget (t : String) : Prop where
  begins : ∃ c cs, t.toList = c :: cs ∧ LogDirective.isStart c = true ∧ Text.isBlank c = false
  plain : ∀ c ∈ t.toList, c ≠ '=' ∧ c ≠ '[' ∧ c ≠ ','

namespace LogDirective

/-- A directive that names a level and at most a target. -/
def ofLevel (p : Option String × LogLevel) : LogDirective := { level := p.2, target := p.1 }

/-- The text of such a directive. -/
def spelled : Option String × LogLevel → List Char
  | (some t, l) => t.toList ++ '=' :: l.name.toList
  | (none, l) => l.name.toList

theorem level?_name (l : LogLevel) : level? l.name.toList = some l := by
  rw [level?, if_neg (by simpa using l.name_ne_nil), String.ofList_toList, l.read?_name]

/-- A directive with a target is read back from its text. -/
theorem read?_spelled_some {t : String} (ht : IsTarget t) (l : LogLevel) :
    read? (spelled (some t, l)) = some { level := l, target := some t } := by
  obtain ⟨c, cs, hbegins, hstart, hblank⟩ := ht.begins
  have hinside : ∀ x ∈ t.toList, (decide (x ≠ '=') && decide (x ≠ '[')) = true := by
    intro x hx
    obtain ⟨heq, hbracket, -⟩ := ht.plain x hx
    simp [heq, hbracket]
  have htext : spelled (some t, l) = c :: (cs ++ '=' :: l.name.toList) := by
    rw [spelled, hbegins, List.cons_append]
  have hlast : spelled (some t, l) =
      (t.toList ++ '=' :: l.name.toList.dropLast) ++ [l.name.toList.getLast l.name_ne_nil] := by
    rw [spelled, List.append_assoc, List.cons_append, List.dropLast_concat_getLast]
  have htrimmed : Text.trimmed (spelled (some t, l)) = spelled (some t, l) :=
    Text.trimmed_eq_self htext hlast hblank (by cases l <;> decide)
  have hword : (spelled (some t, l)).takeWhile (fun x => x ≠ '=' && x ≠ '[') = t.toList := by
    rw [spelled, List.takeWhile_append_of_pos hinside]
    simp
  have hrest : (spelled (some t, l)).dropWhile (fun x => x ≠ '=' && x ≠ '[') =
      '=' :: l.name.toList := by
    rw [spelled, List.dropWhile_append_of_pos hinside]
    simp
  unfold read?
  dsimp only
  rw [htrimmed, hword, hrest, htext]
  split
  case h_1 he => cases he
  case h_2 r he =>
    -- a target does not begin with a bracket
    cases he
    exact absurd rfl (ht.plain '[' (hbegins ▸ List.mem_cons_self)).2.1
  case h_3 x tail _ he =>
    cases he
    rw [if_pos hstart]
    simp [hblank, level?_name, String.ofList_toList]

theorem read?_spelled {p : Option String × LogLevel} (h : ∀ t, p.1 = some t → IsTarget t) :
    read? (spelled p) = some (ofLevel p) := by
  obtain ⟨target, l⟩ := p
  cases target with
  | none => cases l <;> decide
  | some t => exact read?_spelled_some (h t rfl) l

theorem comma_not_mem_spelled {p : Option String × LogLevel}
    (h : ∀ t, p.1 = some t → IsTarget t) : ',' ∉ spelled p := by
  obtain ⟨target, l⟩ := p
  have hname : ',' ∉ l.name.toList := by cases l <;> decide
  cases target with
  | none => exact hname
  | some t =>
      intro hmem
      rcases List.mem_append.1 hmem with hmem | hmem
      · exact ((h t rfl).plain ',' hmem).2.2 rfl
      · rcases List.mem_cons.1 hmem with he | hmem
        · cases he
        · exact hname hmem

theorem spelled_ne_nil (p : Option String × LogLevel) : spelled p ≠ [] := by
  obtain ⟨target, l⟩ := p
  cases target with
  | none => exact l.name_ne_nil
  | some t => exact List.append_ne_nil_of_right_ne_nil _ (List.cons_ne_nil _ _)

end LogDirective

namespace LogFilter

open LogDirective

/-- The text of directives, with commas between them. -/
def spelled (ps : List (Option String × LogLevel)) : String :=
  String.ofList ([','].intercalate (ps.map LogDirective.spelled))

variable {ps : List (Option String × LogLevel)}

theorem parts_spelled (h : ∀ p ∈ ps, ∀ t, p.1 = some t → IsTarget t) :
    parts (spelled ps) = ps.map LogDirective.spelled := by
  cases ps with
  | nil => rfl
  | cons p rest =>
      have hcomma : ∀ cs ∈ (p :: rest).map LogDirective.spelled, ',' ∉ cs := by
        intro cs hcs
        obtain ⟨q, hq, rfl⟩ := List.mem_map.1 hcs
        exact comma_not_mem_spelled (h q hq)
      unfold parts spelled
      rw [String.toList_ofList, List.splitOn_intercalate ',' hcomma (by simp), List.filter_eq_self]
      intro cs hcs
      obtain ⟨q, -, rfl⟩ := List.mem_map.1 hcs
      simpa using spelled_ne_nil q

theorem mapM_read?_spelled (h : ∀ p ∈ ps, ∀ t, p.1 = some t → IsTarget t) :
    (ps.map LogDirective.spelled).mapM LogDirective.read? = some (ps.map ofLevel) := by
  induction ps with
  | nil => rfl
  | cons p rest ih =>
      obtain ⟨hp, hrest⟩ := List.forall_mem_cons.1 h
      rw [List.map_cons, List.mapM_cons, LogDirective.read?_spelled hp, ih hrest]
      rfl

/-- Directives that name a level and at most a target are read back from their text. -/
theorem read?_spelled (h : ∀ p ∈ ps, ∀ t, p.1 = some t → IsTarget t) :
    read? (spelled ps) = some (ps.map ofLevel) := by
  rw [read?, parts_spelled h, mapM_read?_spelled h]

/-- Where mistakes are left out, well formed directives are all kept. -/
theorem lenient_spelled (h : ∀ p ∈ ps, ∀ t, p.1 = some t → IsTarget t) (hne : ps ≠ []) :
    lenient (spelled ps) = ps.map ofLevel := by
  have hall : (ps.map LogDirective.spelled).filterMap LogDirective.read? = ps.map ofLevel := by
    rw [List.filterMap_map, ← List.filterMap_eq_map]
    exact List.filterMap_congr fun p hp => LogDirective.read?_spelled (h p hp)
  unfold lenient
  rw [parts_spelled h, hall]
  cases ps with
  | nil => exact absurd rfl hne
  | cons p rest => rfl

end LogFilter

namespace Logging

open LogDirective

/-- Well formed directives of the surroundings hold, and those of the settings where the
surroundings say nothing or something that is not well formed. -/
theorem filter_spelled {log : Logging} {ps : List (Option String × LogLevel)}
    (hps : ∀ p ∈ ps, ∀ t, p.1 = some t → IsTarget t) (hne : ps ≠ [])
    (hlog : log.level = LogFilter.spelled ps) :
    (∀ surroundings : Option String, surroundings.bind LogFilter.read? = none →
        log.filter surroundings = ps.map ofLevel) ∧
      ∀ qs : List (Option String × LogLevel), (∀ q ∈ qs, ∀ t, q.1 = some t → IsTarget t) →
        log.filter (some (LogFilter.spelled qs)) = qs.map ofLevel := by
  constructor
  · intro surroundings hnone
    rw [filter, hnone, hlog, LogFilter.lenient_spelled hps hne]
    rfl
  · intro qs hqs
    rw [filter, Option.bind_some, LogFilter.read?_spelled hqs]
    rfl

/-- A log that is set to the name of a level, where the surroundings say nothing, shows the events
up to this level. -/
theorem admits_of_named {log : Logging} {l : LogLevel} (h : log.level = l.name) (e : LogEvent) :
    (log.filter none).admits e = true ↔ e.level.rank ≤ l.rank := by
  have hspelled : log.level = LogFilter.spelled [(none, l)] := by
    rw [h, LogFilter.spelled]
    simp [LogDirective.spelled]
  have hfilter : log.filter none = [{ level := l }] :=
    (filter_spelled (by simp) (List.cons_ne_nil _ _) hspelled).1 none rfl
  have hmatch : matchesEvent { level := l } e = true := rfl
  rw [hfilter, LogFilter.admits_iff]
  constructor
  · rintro ⟨d, ⟨before, after, hd, -⟩, hlevel⟩
    have hmem : d ∈ [({ level := l } : LogDirective)] := hd ▸ by simp
    rwa [List.mem_singleton.1 hmem] at hlevel
  · intro hlevel
    exact ⟨{ level := l }, ⟨[], [], rfl, hmatch, by simp, by simp⟩, hlevel⟩

end Logging

end Presence
