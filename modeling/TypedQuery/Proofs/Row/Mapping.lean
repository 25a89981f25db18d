import TypedQuery.Proofs.Occurrences
import TypedQuery.Row.Mapping

/-!
# What a row has under a name

A row is filled position by position, and a value that comes later under a name takes the place of
an earlier one. So a row has under a name what stands at the last position of that name
(`Row.get?_ofRaw`), in the meaning that the position gives it.
-/

namespace TypedQuery

namespace Row

/-- Putting in a value changes what is found under its name and under no other. -/
theorem get?_insert (row : Row) (key name : String) (value : Value) :
    (row.insert key value).get? name = if key = name then some value else row.get? name := by
  obtain ⟨entries⟩ := row
  unfold get? insert
  induction entries with
  | nil =>
    by_cases same : key = name
    · simp [put, same]
    · simp [put, same]
  | cons entry rest ih =>
    obtain ⟨other, old⟩ := entry
    by_cases taken : other = key
    · -- The value takes the place of the one that is there.
      subst taken
      by_cases same : other = name
      · simp [put, same]
      · simp [put, same]
    · rw [put, if_neg taken]
      by_cases found : other = name
      · have different : key ≠ name := fun same => taken (found.trans same.symm)
        simp [found, different]
      · simpa [found] using ih

/-- Nothing is found in the row without entries. -/
theorem get?_empty (name : String) : empty.get? name = none := rfl

/-- A row has under a name the value at the last position of that name that has a value, and nothing
if there is no such position. -/
theorem get?_ofRaw (columns : List OutputColumn) (raw : RawRow) (name : String) :
    (ofRaw columns raw).get? name =
      ((columns.zip raw).reverse.find? (·.1.name = name)).map fun entry =>
        entry.2.convert entry.1.dataType := by
  unfold ofRaw
  induction columns.zip raw using List.reverseRecOn with
  | nil => exact get?_empty name
  | append_singleton entries entry ih =>
    -- The last position decides, unless it has another name.
    rw [List.foldl_append, List.foldl_cons, List.foldl_nil, get?_insert, List.reverse_append,
      List.reverse_singleton, List.singleton_append, List.find?_cons, ih]
    by_cases same : entry.1.name = name
    · simp [same]
    · simp [same]

/-- A row has under a name what stands at a position of that name, if no later one has it. -/
theorem get?_ofRaw_of_last {columns : List OutputColumn} {raw : RawRow} {k : Nat}
    {column : OutputColumn} {value : Value} (position : columns[k]? = some column)
    (given : raw[k]? = some value)
    (last : ∀ j, k < j → ∀ other, columns[j]? = some other → other.name ≠ column.name) :
    (ofRaw columns raw).get? column.name = some (value.convert column.dataType) := by
  have found : (columns.zip raw)[k]? = some (column, value) := by
    rw [List.getElem?_zip_eq_some]
    exact ⟨position, given⟩
  have later (j : Nat) (after : k < j) (entry : OutputColumn × Value)
      (there : (columns.zip raw)[j]? = some entry) :
      decide (entry.1.name = column.name) = false := by
    rw [List.getElem?_zip_eq_some] at there
    exact decide_eq_false (last j after entry.1 there.1)
  rw [get?_ofRaw, find?_reverse_eq_some_iff.2 ⟨k, found, decide_eq_true rfl, later⟩,
    Option.map_some]

end Row

end TypedQuery
