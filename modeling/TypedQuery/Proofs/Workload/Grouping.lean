import Mathlib.Algebra.GroupWithZero.Nat
import TypedQuery.Proofs.Occurrences
import TypedQuery.Proofs.Workload.Queries

/-!
# Counting by name

The statistics of the workload are kept while it runs: a query is added to the entry of its name, or
gets the next entry if its name is new. At any time they are the log of the queries grouped by name
(`recorded_eq_grouped`): one entry for each name that was counted, in the order in which the names
first came up, with the number of the name's queries in the log and the sum of their rows.
-/

namespace TypedQuery.Workload

/-- The queries of a name in a log, and their rows. -/
def summary (log : List Entry) (name : String) : Stats where
  name := name
  runs := log.countP fun entry => entry.query.name? = some name
  rows := ((log.filter fun entry => entry.query.name? = some name).map (·.rows.length)).sum

/-- The names that the queries of a log are counted under. -/
def countedNames (log : List Entry) : List String :=
  log.filterMap (·.query.name?)

/-- A log grouped by name, in the order in which the names first come up. -/
def grouped (log : List Entry) : List Stats :=
  (countedNames log).eraseDups.map (summary log)

/-- The statistics with one more answered query. -/
def Entry.record (entry : Entry) (stats : List Stats) : List Stats :=
  match entry.query.name? with
  | some name => Workload.record name entry.rows.length stats
  | none => stats

/-- The statistics with the answered queries of a log. -/
def recorded (log : List Entry) (stats : List Stats) : List Stats :=
  log.foldl (fun stats entry => entry.record stats) stats

/-- Of statistics with different names the one of a query's name is changed, or there is one more.
-/
theorem record_map {stats : String → Stats} (named : ∀ name, (stats name).name = name)
    {names : List String} (distinct : names.Nodup) (name : String) (rows : Nat) :
    record name rows (names.map stats) =
      if name ∈ names then
        names.map fun other =>
          if other = name then ⟨name, (stats name).runs + 1, (stats name).rows + rows⟩
          else stats other
      else names.map stats ++ [⟨name, 1, rows⟩] := by
  induction names with
  | nil => rfl
  | cons first names ih =>
    obtain ⟨new, distinct⟩ := List.nodup_cons.1 distinct
    rw [List.map_cons, record, named]
    by_cases same : first = name
    · subst same
      -- No other name is the first one, so the rest stays as it is.
      have rest : names.map (fun other =>
          if other = first then ⟨first, (stats first).runs + 1, (stats first).rows + rows⟩
          else stats other) = names.map stats := by
        refine List.map_congr_left fun other mem => if_neg ?_
        rintro rfl
        exact new mem
      rw [if_pos rfl, if_pos List.mem_cons_self, List.map_cons, if_pos rfl, rest]
    · rw [if_neg same, ih distinct]
      by_cases old : name ∈ names
      · rw [if_pos old, if_pos (List.mem_cons_of_mem _ old), List.map_cons, if_neg same]
      · have absent : name ∉ first :: names := by simp [old, Ne.symm same]
        rw [if_neg old, if_neg absent]
        rfl

variable {log : List Entry} {entry : Entry} {name : String}

/-- One more query of a name. -/
theorem summary_append_of_eq (counted : entry.query.name? = some name) :
    summary (log ++ [entry]) name =
      ⟨name, (summary log name).runs + 1, (summary log name).rows + entry.rows.length⟩ := by
  simp [summary, List.countP_append, List.filter_append, counted]

/-- One more query of another name, or one that is not counted. -/
theorem summary_append_of_ne (other : entry.query.name? ≠ some name) :
    summary (log ++ [entry]) name = summary log name := by
  simp [summary, List.countP_append, List.filter_append, other]

/-- A name without queries. -/
theorem summary_of_notMem (new : name ∉ countedNames log) : summary log name = ⟨name, 0, 0⟩ := by
  have none_named : ∀ entry ∈ log, ¬entry.query.name? = some name := fun entry mem counted =>
    new (List.mem_filterMap.2 ⟨entry, mem, counted⟩)
  have no_entry : (log.filter fun entry => entry.query.name? = some name) = [] := by
    rw [List.filter_eq_nil_iff]
    simpa using none_named
  have no_run : (log.countP fun entry => entry.query.name? = some name) = 0 := by
    rw [List.countP_eq_length_filter, no_entry, List.length_nil]
  simp [summary, no_run, no_entry]

/-- Grouping a log with one more query is counting the query. -/
theorem grouped_append_singleton : grouped (log ++ [entry]) = entry.record (grouped log) := by
  cases counted : entry.query.name? with
  | none =>
    have names : countedNames (log ++ [entry]) = countedNames log := by
      simp [countedNames, counted]
    rw [grouped, Entry.record, counted, names]
    refine List.map_congr_left fun name _ => summary_append_of_ne ?_
    simp [counted]
  | some name =>
    have names : countedNames (log ++ [entry]) = countedNames log ++ [name] := by
      simp [countedNames, counted]
    have kept {other : String} (ne : other ≠ name) :
        summary (log ++ [entry]) other = summary log other :=
      summary_append_of_ne (by simpa [counted] using ne.symm)
    rw [grouped, Entry.record, counted, names, eraseDups_append_singleton]
    simp only [grouped]
    rw [record_map (fun _ => rfl) (nodup_eraseDups _)]
    simp only [List.mem_eraseDups]
    by_cases old : name ∈ countedNames log
    · rw [if_pos old, if_pos old]
      refine List.map_congr_left fun other _ => ?_
      by_cases same : other = name
      · rw [if_pos same, same, summary_append_of_eq counted]
      · rw [if_neg same, kept same]
    · rw [if_neg old, if_neg old, List.map_append, List.map_singleton,
        summary_append_of_eq counted, summary_of_notMem old]
      simp only [Nat.zero_add]
      congr 1
      refine List.map_congr_left fun other mem => kept ?_
      rintro rfl
      exact old (List.mem_eraseDups.1 mem)

/-- The statistics are the log grouped by name. -/
theorem recorded_eq_grouped (log : List Entry) : recorded log [] = grouped log := by
  induction log using List.reverseRecOn with
  | nil => rfl
  | append_singleton log entry ih =>
    rw [grouped_append_singleton, ← ih]
    simp [recorded]

-- The keys of orders were read and are not counted.
example (row : Row) :
    recorded [⟨.orderSummary, []⟩, ⟨.keys "order", [row, row]⟩, ⟨.orderDetails 1, [row, row]⟩,
      ⟨.orderDetails 2, [row]⟩] [] = [⟨"order: summary", 1, 0⟩, ⟨"order: details", 2, 3⟩] :=
  rfl

/-- No name has two entries. -/
theorem nodup_names_grouped (log : List Entry) : ((grouped log).map (·.name)).Nodup := by
  have names : (grouped log).map (·.name) = (countedNames log).eraseDups := by
    simp [grouped, Function.comp_def, summary]
  rw [names]
  exact nodup_eraseDups _

/-- A name that has an entry was run. -/
theorem runs_pos_of_mem_grouped {stats : Stats} (mem : stats ∈ grouped log) : 0 < stats.runs := by
  obtain ⟨name, listed, rfl⟩ := List.mem_map.1 mem
  obtain ⟨entry, mem, counted⟩ := List.mem_filterMap.1 (List.mem_eraseDups.1 listed)
  exact List.countP_pos_iff.2 ⟨entry, mem, by simpa using counted⟩

end TypedQuery.Workload
