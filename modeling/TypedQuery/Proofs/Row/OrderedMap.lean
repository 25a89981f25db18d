import TypedQuery.Proofs.Row.Mapping
import TypedQuery.Proofs.Value.Tree

/-!
# Rows are ordered maps

A row is filled by putting in one value after another, and a value under a name that is there
already takes the place of the old one. So the names of a row come in the order in which they first
occur among the positions with a value, while the value under a name is the one at its last
position. `Row.isOrderedMap_ofRaw` says both for every list of columns and every raw row, with more
columns than values or more values than columns, and that the row's JSON is the object with the same
names in the same order.
-/

namespace TypedQuery.Row

/-! ## Names -/

/-- The names of the positions that have a value, one for each position. -/
def givenNames (columns : List OutputColumn) (raw : RawRow) : List String :=
  (columns.take (min columns.length raw.length)).map (·.name)

/-- Positions and values that are put together have the names that are given. -/
theorem map_name_zip (columns : List OutputColumn) (raw : RawRow) :
    (columns.zip raw).map (·.1.name) = givenNames columns raw := by
  have firsts : (columns.zip raw).map Prod.fst =
      columns.take (min columns.length raw.length) := by
    rw [List.zip_eq_zip_take_min, List.map_fst_zip (by simp)]
  rw [givenNames, ← firsts, List.map_map]
  rfl

/-- Putting in a value adds its name at the end, unless it is there. -/
theorem names_insert (row : Row) (name : String) (value : Value) :
    (row.insert name value).names =
      if name ∈ row.names then row.names else row.names ++ [name] :=
  map_fst_put name value row.entries

/-- The names of a row are those that are given, without repetitions. -/
theorem names_ofRaw (columns : List OutputColumn) (raw : RawRow) :
    (ofRaw columns raw).names = (givenNames columns raw).eraseDups := by
  rw [← map_name_zip]
  unfold ofRaw
  induction columns.zip raw using List.reverseRecOn with
  | nil => rfl
  | append_singleton entries entry ih =>
    rw [List.foldl_append, List.foldl_cons, List.foldl_nil, names_insert, ih, List.map_append,
      List.map_singleton, eraseDups_append_singleton]
    simp only [List.mem_eraseDups]

/-! ## Values -/

/-- The last position of a name among those with a value, and what stands there. -/
structure LastAt (columns : List OutputColumn) (raw : RawRow) (name : String) (k : Nat)
    (column : OutputColumn) (stored : Value) : Prop where
  position : columns[k]? = some column
  given : raw[k]? = some stored
  named : column.name = name
  last : ∀ j, k < j → j < min columns.length raw.length →
    ∀ later, columns[j]? = some later → later.name ≠ name

/-- The last pair with a name is what stands at the last position of it. -/
theorem find?_reverse_zip_eq_some_iff {columns : List OutputColumn} {raw : RawRow} {name : String}
    {column : OutputColumn} {stored : Value} :
    (columns.zip raw).reverse.find? (·.1.name = name) = some (column, stored) ↔
      ∃ k, LastAt columns raw name k column stored := by
  rw [find?_reverse_eq_some_iff]
  refine exists_congr fun k => ⟨?_, ?_⟩
  · rintro ⟨here, named, later⟩
    rw [List.getElem?_zip_eq_some] at here
    refine ⟨here.1, here.2, of_decide_eq_true named, fun j after inside other there => ?_⟩
    -- A position with a value has a pair.
    have value : raw[j]? = some raw[j] := List.getElem?_eq_getElem (by omega)
    have pair : (columns.zip raw)[j]? = some (other, raw[j]) :=
      List.getElem?_zip_eq_some.2 ⟨there, value⟩
    exact of_decide_eq_false (later j after _ pair)
  · rintro ⟨position, given, named, last⟩
    refine ⟨List.getElem?_zip_eq_some.2 ⟨position, given⟩, decide_eq_true named,
      fun j after pair there => ?_⟩
    rw [List.getElem?_zip_eq_some] at there
    obtain ⟨inside, -⟩ := List.getElem?_eq_some_iff.1 there.1
    obtain ⟨filled, -⟩ := List.getElem?_eq_some_iff.1 there.2
    exact decide_eq_false (last j after (by omega) pair.1 there.1)

/-- A row has a value under a name if it is what stands at the last position of the name, in the
meaning that the position gives it. -/
theorem get?_ofRaw_eq_some_iff {columns : List OutputColumn} {raw : RawRow} {name : String}
    {value : Value} :
    (ofRaw columns raw).get? name = some value ↔
      ∃ k column stored, LastAt columns raw name k column stored ∧
        stored.convert column.dataType = value := by
  rw [get?_ofRaw, Option.map_eq_some_iff]
  constructor
  · rintro ⟨⟨column, stored⟩, found, meant⟩
    obtain ⟨k, last⟩ := find?_reverse_zip_eq_some_iff.1 found
    exact ⟨k, column, stored, last, meant⟩
  · rintro ⟨k, column, stored, last, meant⟩
    exact ⟨(column, stored), find?_reverse_zip_eq_some_iff.2 ⟨k, last⟩, meant⟩

/-- A row has something under its names and under no other. -/
theorem get?_eq_none_iff (row : Row) (name : String) : row.get? name = none ↔ name ∉ row.names := by
  unfold get? names
  rw [Option.map_eq_none_iff, List.find?_eq_none, List.mem_map]
  constructor
  · rintro other ⟨entry, mem, rfl⟩
    exact other entry mem (decide_eq_true rfl)
  · intro missing entry mem same
    exact missing ⟨entry, mem, of_decide_eq_true same⟩

/-- A value is absent if it is not there, or null. -/
theorem isAbsent_iff (row : Row) (name : String) :
    row.isAbsent name = true ↔ row.get? name = none ∨ row.get? name = some .null := by
  unfold isAbsent
  cases row.get? name with
  | none => simp
  | some value => cases value <;> simp [Value.isNull]

/-- A row without repeated names has its entries under their names. -/
theorem mem_entries_iff {row : Row} (distinct : row.names.Nodup) (name : String) (value : Value) :
    (name, value) ∈ row.entries ↔ row.get? name = some value := by
  obtain ⟨entries⟩ := row
  unfold names at distinct
  unfold get?
  dsimp only at distinct ⊢
  induction entries with
  | nil => simp
  | cons entry rest ih =>
    obtain ⟨key, old⟩ := entry
    rw [List.map_cons, List.nodup_cons] at distinct
    obtain ⟨new, distinct⟩ := distinct
    rw [List.mem_cons, List.find?_cons, ih distinct]
    by_cases same : key = name
    · subst same
      have other : (key, value) ∉ rest := fun mem => new (List.mem_map_of_mem (f := (·.1)) mem)
      rw [← ih distinct]
      simp [other, eq_comm]
    · have other : name ≠ key := fun h => same h.symm
      simp [same, other]

/-! ## JSON -/

/-- The JSON of a row is an object with its names, each with what its value is in JSON. -/
theorem document_toJson (row : Row) :
    Json.Document.ofChars row.toJson.toList =
      ⟨.object (.ofList (row.entries.map fun (name, value) => (name, value.tree))), false⟩ := by
  rw [toJson, String.toList_ofList]
  exact (Json.spells_writeObject Value.spells_tree row.entries).document

/-! ## Rows of results -/

/-- A row is the ordered map of a list of columns and a raw row. -/
structure IsOrderedMap (row : Row) (columns : List OutputColumn) (raw : RawRow) : Prop where
  /-- No name repeats. -/
  nodup : row.names.Nodup
  /-- The names are those of the positions with a value. -/
  mem_names : ∀ name, name ∈ row.names ↔ name ∈ givenNames columns raw
  /-- Of two names, the one that occurs first at such a position comes first. -/
  order : row.names.Pairwise fun a b =>
    (givenNames columns raw).idxOf a < (givenNames columns raw).idxOf b
  /-- Under a name is what stands at its last position with a value. -/
  get?_eq_some : ∀ name value, row.get? name = some value ↔
    ∃ k column stored, LastAt columns raw name k column stored ∧
      stored.convert column.dataType = value
  /-- Nothing is under a name that no position with a value has. -/
  get?_eq_none : ∀ name, row.get? name = none ↔ name ∉ givenNames columns raw
  /-- A value is absent if there is no such position, or what stands at the last one means null. -/
  isAbsent : ∀ name, row.isAbsent name = true ↔ name ∉ givenNames columns raw ∨
    ∃ k column stored, LastAt columns raw name k column stored ∧
      stored.convert column.dataType = .null
  /-- In JSON the row is an object with each of the names once, in their order, and what is under a
  name in the row is under it there. -/
  json : ∃ members : List (String × Json),
    Json.Document.ofChars row.toJson.toList = ⟨.object (.ofList members), false⟩ ∧
      members.map (·.1) = row.names ∧
      ∀ name value, row.get? name = some value → (name, value.tree) ∈ members

/-- The row of a raw one is an ordered map, whatever names repeat, and whether values or columns are
left over. -/
theorem isOrderedMap_ofRaw (columns : List OutputColumn) (raw : RawRow) :
    (ofRaw columns raw).IsOrderedMap columns raw := by
  have names := names_ofRaw columns raw
  have mem (name : String) : name ∈ (ofRaw columns raw).names ↔ name ∈ givenNames columns raw := by
    rw [names, List.mem_eraseDups]
  have distinct : (ofRaw columns raw).names.Nodup := by
    rw [names]
    exact nodup_eraseDups _
  have none (name : String) :
      (ofRaw columns raw).get? name = none ↔ name ∉ givenNames columns raw := by
    rw [get?_eq_none_iff, mem]
  exact {
    nodup := distinct
    mem_names := mem
    order := by
      rw [names]
      exact pairwise_idxOf_eraseDups _
    get?_eq_some := fun _ _ => get?_ofRaw_eq_some_iff
    get?_eq_none := none
    isAbsent := fun name => by rw [isAbsent_iff, none, get?_ofRaw_eq_some_iff]
    json := by
      refine ⟨_, document_toJson _, ?_, fun name value found => ?_⟩
      · rw [List.map_map]
        rfl
      · exact List.mem_map.2 ⟨(name, value), (mem_entries_iff distinct name value).2 found, rfl⟩ }

/-- Two columns of one name are one entry, at the place of the first with the value of the second,
and a column without a value is none. -/
example :
    (ofRaw [⟨"id", .integer⟩, ⟨"region", .text⟩, ⟨"id", .boolean⟩, ⟨"name", .text⟩]
      [.integer 7, .null, .integer 0]).entries = [("id", .boolean false), ("region", .null)] :=
  rfl

end TypedQuery.Row
