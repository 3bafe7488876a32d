import Presence.Proofs.Counting

/-!
# What is published of the counters

The text in which the counters are published consists of lines: two comments for each family, and
one line for each counter, its series followed by its value. Main statements:
`Counter.series_injective`, no two counters are published under one series, whatever their labels;
`Metrics.mem_lines_iff`, the lines that are no comments are those of the counters that are held,
each with its value; `Metrics.published_add`, so what was counted is published.
-/

set_option autoImplicit false

namespace Presence

namespace Counter

/-- The name of the family of a counter. -/
def family : Counter → String
  | .eventsProcessed _ => "presence_events_processed_total"
  | .eventsFailed _ => "presence_events_failed_total"
  | .sessionsFlushed => "presence_sessions_flushed_total"
  | .flushedSeconds => "presence_flushed_seconds_total"
  | .alertsSent _ => "presence_alerts_sent_total"
  | .sleepReminders => "presence_sleep_reminders_total"
  | .scansSkipped _ => "presence_scans_skipped_total"

/-- The label of a counter in braces, as it follows the name of the family. -/
def braced : Counter → String
  | .eventsProcessed kind | .eventsFailed kind => "\x7bkind=" ++ Metrics.quotedLabel kind ++ "\x7d"
  | .alertsSent level => "\x7blevel=" ++ Metrics.quotedLabel level ++ "\x7d"
  | .scansSkipped job => "\x7bjob=" ++ Metrics.quotedLabel job ++ "\x7d"
  | .sessionsFlushed | .flushedSeconds | .sleepReminders => ""

/-- What a counter is published under. -/
def series (c : Counter) : String := c.family ++ c.braced

end Counter

namespace Metrics

/-- A character as it stands between the quotes. -/
def escaped (c : Char) : List Char :=
  if c = '\\' then ['\\', '\\']
  else if c = '"' then ['\\', '"']
  else if c = '\n' then ['\\', 'n']
  else [c]

theorem quotedLabel_eq (s : String) :
    quotedLabel s = String.ofList ('"' :: s.toList.flatMap escaped ++ ['"']) := rfl

/-- The text that was escaped. -/
def unescaped : List Char → List Char
  | [] => []
  | '\\' :: 'n' :: rest => '\n' :: unescaped rest
  | '\\' :: c :: rest => c :: unescaped rest
  | c :: rest => c :: unescaped rest

theorem unescaped_escaped (c : Char) (rest : List Char) :
    unescaped (escaped c ++ rest) = c :: unescaped rest := by
  unfold escaped
  split
  case isTrue hslash =>
    subst hslash
    rfl
  case isFalse hslash =>
    split
    case isTrue hquote =>
      subst hquote
      rfl
    case isFalse =>
      split
      case isTrue hline =>
        subst hline
        rfl
      case isFalse =>
        -- nothing else begins with a backslash
        simp [unescaped, hslash]

theorem unescaped_flatMap (cs : List Char) : unescaped (cs.flatMap escaped) = cs := by
  induction cs with
  | nil => rfl
  | cons c cs ih => rw [List.flatMap_cons, unescaped_escaped, ih]

/-- A label can be told from its quotation. -/
theorem quotedLabel_injective : Function.Injective quotedLabel := by
  intro s t h
  rw [quotedLabel_eq, quotedLabel_eq, String.ofList_inj] at h
  have hinside : s.toList.flatMap escaped = t.toList.flatMap escaped :=
    (List.cons.inj (List.append_cancel_right h)).2
  apply String.toList_inj.1
  rw [← unescaped_flatMap s.toList, hinside, unescaped_flatMap]

end Metrics

namespace Counter

/-- The family of a counter ends where its label begins. -/
theorem takeWhile_series (c : Counter) :
    c.series.toList.takeWhile (· ≠ '\x7b') = c.family.toList := by
  have hfamily : ∀ x ∈ c.family.toList, decide (x ≠ '\x7b') = true := by
    cases c <;> simp [family]
  have hbraced : c.braced.toList.takeWhile (· ≠ '\x7b') = [] := by
    cases c <;> simp [braced]
  rw [series, String.toList_append, List.takeWhile_append_of_pos hfamily, hbraced, List.append_nil]

/-- No two counters are published under one series, whatever their labels. -/
theorem series_injective : Function.Injective series := by
  intro c d h
  have hfamily : c.family = d.family := by
    apply String.toList_inj.1
    rw [← takeWhile_series, h, takeWhile_series]
  have hbraced : c.braced = d.braced := by
    rw [series, series, hfamily] at h
    exact (String.append_right_inj _).1 h
  cases c <;> cases d <;> simp_all [family, braced, Metrics.quotedLabel_injective.eq_iff]

end Counter

namespace Metrics

variable {m : Metrics} {c : Counter}

/-- A counter that is held: it has no label, or something was counted under its label. -/
def Holds (m : Metrics) : Counter → Prop
  | .eventsProcessed kind => (m.eventsProcessed.get? kind).isSome
  | .eventsFailed kind => (m.eventsFailed.get? kind).isSome
  | .alertsSent level => (m.alertsSent.get? level).isSome
  | .scansSkipped job => (m.scansSkipped.get? job).isSome
  | .sessionsFlushed | .flushedSeconds | .sleepReminders => True

/-- The line of a counter with a value. -/
def lineOf (c : Counter) (n : Nat) : String := c.series ++ " " ++ (Binary64.ofInt n).text .plain

/-- The lines of a family. -/
def Family.lines (f : Family) : List String :=
  ("# HELP " ++ f.name ++ " " ++ f.help) :: ("# TYPE " ++ f.name ++ " counter") ::
    f.counters.map fun p => f.name ++ p.1 ++ " " ++ (Binary64.ofInt p.2).text .plain

/-- The lines of what is published. -/
def lines (m : Metrics) : List String :=
  (m.families.filter fun f => !f.counters.isEmpty).flatMap Family.lines

theorem join_flatMap {α : Type} (f : α → List String) (l : List α) :
    String.join (l.flatMap f) = String.join (l.map fun a => String.join (f a)) := by
  induction l with
  | nil => rfl
  | cons a l ih => rw [List.flatMap_cons, String.join_append, List.map_cons, String.join_cons, ih]

theorem Family.text_eq (f : Family) : f.text = String.join (f.lines.map (· ++ "\n")) := by
  have htype : "\n# TYPE " = "\n" ++ "# TYPE " := by decide
  have hcounter : " counter\n" = " counter" ++ "\n" := by decide
  simp only [text, lines, htype, hcounter, List.map_cons, List.map_map, String.join_cons,
    String.append_assoc, Function.comp_def]

/-- What is published consists of its lines, each with its end. -/
theorem exposition_eq (m : Metrics) : m.exposition = String.join (m.lines.map (· ++ "\n")) := by
  unfold exposition lines
  rw [List.map_flatMap, join_flatMap]
  exact congrArg String.join (List.map_congr_left fun f _ => f.text_eq)

theorem mem_counters_labelled {name help key opening braced : String} {t : Table String Nat}
    {n : Nat} (hopening : "\x7b" ++ key ++ "=" = opening) :
    (braced, n) ∈ (labelled name help key t).counters ↔
      ∃ label, t.get? label = some n ∧ opening ++ quotedLabel label ++ "\x7d" = braced := by
  subst hopening
  simp only [labelled, List.mem_map, Prod.mk.injEq, Prod.exists, Table.get?_eq_some_iff]
  constructor
  · rintro ⟨label, k, hmem, hbraced, rfl⟩
    exact ⟨label, hmem, hbraced⟩
  · rintro ⟨label, hmem, hbraced⟩
    exact ⟨label, n, hmem, hbraced, rfl⟩

theorem getD_of_isSome {t : Table String Nat} {label : String} (h : (t.get? label).isSome) :
    t.get? label = some (t.getD label 0) := by
  obtain ⟨n, hn⟩ := Option.isSome_iff_exists.1 h
  rw [Table.getD, hn]
  rfl

/-- A counter that is held stands in its family. -/
theorem exists_family (h : m.Holds c) :
    ∃ f ∈ m.families, f.name = c.family ∧ (c.braced, m.value c) ∈ f.counters := by
  have hplace (i : Fin 7) : m.families.get i ∈ m.families := List.get_mem m.families i
  cases c with
  | alertsSent level =>
      refine ⟨_, hplace 0, rfl, (mem_counters_labelled ?_).2 ⟨level, getD_of_isSome h, rfl⟩⟩
      decide
  | eventsFailed kind =>
      refine ⟨_, hplace 1, rfl, (mem_counters_labelled ?_).2 ⟨kind, getD_of_isSome h, rfl⟩⟩
      decide
  | eventsProcessed kind =>
      refine ⟨_, hplace 2, rfl, (mem_counters_labelled ?_).2 ⟨kind, getD_of_isSome h, rfl⟩⟩
      decide
  | flushedSeconds => exact ⟨_, hplace 3, rfl, List.mem_singleton_self _⟩
  | scansSkipped job =>
      refine ⟨_, hplace 4, rfl, (mem_counters_labelled ?_).2 ⟨job, getD_of_isSome h, rfl⟩⟩
      decide
  | sessionsFlushed => exact ⟨_, hplace 5, rfl, List.mem_singleton_self _⟩
  | sleepReminders => exact ⟨_, hplace 6, rfl, List.mem_singleton_self _⟩

/-- Whatever stands in a family is a counter that is held. -/
theorem exists_counter {f : Family} (hf : f ∈ m.families) {braced : String} {n : Nat}
    (hmem : (braced, n) ∈ f.counters) :
    ∃ c, m.Holds c ∧ c.family = f.name ∧ c.braced = braced ∧ m.value c = n := by
  have hsome {t : Table String Nat} {label : String} (h : t.get? label = some n) :
      (t.get? label).isSome ∧ t.getD label 0 = n := by
    rw [Table.getD, h]
    exact ⟨rfl, rfl⟩
  have hlevel : "\x7b" ++ "level" ++ "=" = "\x7blevel=" := by decide
  have hkind : "\x7b" ++ "kind" ++ "=" = "\x7bkind=" := by decide
  have hjob : "\x7b" ++ "job" ++ "=" = "\x7bjob=" := by decide
  simp only [families, List.mem_cons, List.not_mem_nil, or_false] at hf
  rcases hf with rfl | rfl | rfl | rfl | rfl | rfl | rfl
  · obtain ⟨level, hget, rfl⟩ := (mem_counters_labelled hlevel).1 hmem
    exact ⟨.alertsSent level, (hsome hget).1, rfl, rfl, (hsome hget).2⟩
  · obtain ⟨kind, hget, rfl⟩ := (mem_counters_labelled hkind).1 hmem
    exact ⟨.eventsFailed kind, (hsome hget).1, rfl, rfl, (hsome hget).2⟩
  · obtain ⟨kind, hget, rfl⟩ := (mem_counters_labelled hkind).1 hmem
    exact ⟨.eventsProcessed kind, (hsome hget).1, rfl, rfl, (hsome hget).2⟩
  · cases List.mem_singleton.1 hmem
    exact ⟨.flushedSeconds, trivial, rfl, rfl, rfl⟩
  · obtain ⟨job, hget, rfl⟩ := (mem_counters_labelled hjob).1 hmem
    exact ⟨.scansSkipped job, (hsome hget).1, rfl, rfl, (hsome hget).2⟩
  · cases List.mem_singleton.1 hmem
    exact ⟨.sessionsFlushed, trivial, rfl, rfl, rfl⟩
  · cases List.mem_singleton.1 hmem
    exact ⟨.sleepReminders, trivial, rfl, rfl, rfl⟩

theorem mem_lines_of_mem {f : Family} (hf : f ∈ m.families) {p : String × Nat}
    (hp : p ∈ f.counters) :
    f.name ++ p.1 ++ " " ++ (Binary64.ofInt p.2).text .plain ∈ m.lines := by
  refine List.mem_flatMap.2 ⟨f, List.mem_filter.2 ⟨hf, ?_⟩, ?_⟩
  · simpa using List.ne_nil_of_mem hp
  · exact List.mem_cons_of_mem _ (List.mem_cons_of_mem _ (List.mem_map_of_mem hp))

theorem lineOf_mem_lines (h : m.Holds c) : lineOf c (m.value c) ∈ m.lines := by
  obtain ⟨f, hf, hname, hmem⟩ := exists_family h
  have hline := mem_lines_of_mem hf hmem
  rwa [hname] at hline

/-- The lines that are no comments are those of the counters that are held, each with its value. -/
theorem mem_lines_iff {line : String} (h : line.toList.head? ≠ some '#') :
    line ∈ m.lines ↔ ∃ c, m.Holds c ∧ line = lineOf c (m.value c) := by
  constructor
  · intro hline
    obtain ⟨f, hf, hmem⟩ := List.mem_flatMap.1 hline
    have hfamily := (List.mem_filter.1 hf).1
    simp only [Family.lines, List.mem_cons, List.mem_map] at hmem
    rcases hmem with rfl | rfl | ⟨⟨braced, n⟩, hp, rfl⟩
    · exact absurd (by simp) h
    · exact absurd (by simp) h
    · obtain ⟨c, hc, hname, rfl, rfl⟩ := exists_counter hfamily hp
      exact ⟨c, hc, by rw [← hname]; rfl⟩
  · rintro ⟨c, hc, rfl⟩
    exact lineOf_mem_lines hc

/-- Counting holds the counter at hand and lets go of none. -/
theorem holds_add (m : Metrics) (c : Counter) (n : Nat) (d : Counter) :
    (m.add c n).Holds d ↔ m.Holds d ∨ d = c := by
  have hlabel (t : Table String Nat) (l l' : String) :
      ((addTo t l n).get? l').isSome ↔ (t.get? l').isSome ∨ l' = l := by
    unfold addTo Table.modify
    by_cases h : l' = l
    · subst h
      simp [Table.get?_set_self]
    · simp [Table.get?_set_of_ne _ _ h, h]
  cases c <;> cases d <;> simp [add, Holds, hlabel]

/-- What was counted is published with what it comes to, and what is published of all other
counters stays as it is. -/
theorem published_add (m : Metrics) (c : Counter) (n : Nat) :
    lineOf c (plus (m.value c) n) ∈ (m.add c n).lines ∧
      ∀ d, d ≠ c → m.Holds d → lineOf d (m.value d) ∈ (m.add c n).lines := by
  refine ⟨?_, fun d hne hd => ?_⟩
  · have hline := lineOf_mem_lines ((holds_add m c n c).2 (.inr rfl))
    rwa [value_add, if_pos rfl] at hline
  · have hline := lineOf_mem_lines ((holds_add m c n d).2 (.inl hd))
    rwa [value_add_of_ne m hne n] at hline

end Metrics

end Presence
