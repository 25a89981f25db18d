/-!
# Tables, columns and keys

What is known of a table before any query is made: its columns in order, each with a semantic type,
its primary key and its foreign keys. Nothing here reads a database.

A table may list the same column name twice. The first column of a name is then the one that every
lookup by name finds, which `Table.column?` states once for the whole library.
-/

namespace TypedQuery

/-- What the values of a column mean, which is finer than how the store keeps them: dates are kept
as text and truth values as numbers. -/
inductive DataType where
  | text
  | integer
  | real
  | date
  | boolean
  deriving DecidableEq, Inhabited

/-- The name of a type in listings of columns. -/
def DataType.label : DataType → String
  | .text => "TEXT"
  | .integer => "INTEGER"
  | .real => "REAL"
  | .date => "DATE"
  | .boolean => "BOOLEAN"

/-- A column of a table. -/
structure Column where
  name : String
  dataType : DataType
  nullable : Bool := false
  deriving DecidableEq, Inhabited

/-- A column whose values are those of a column of another table, or of the same one. -/
structure ForeignKey where
  column : String
  table : String
  referenced : String
  deriving DecidableEq, Inhabited

/-- A table: its columns in order and its keys. Link tables have no primary key. -/
structure Table where
  name : String
  columns : List Column
  primaryKey : Option String := none
  foreignKeys : List ForeignKey := []
  deriving DecidableEq, Inhabited

namespace Table

/-- The first column of a name. -/
def column? (table : Table) (name : String) : Option Column :=
  table.columns.find? (·.name = name)

/-- The position of the first column of a name. -/
def columnIndex? (table : Table) (name : String) : Option Nat :=
  table.columns.findIdx? (·.name = name)

/-- Whether a column of that name exists. -/
def hasColumn (table : Table) (name : String) : Bool :=
  (table.column? name).isSome

/-- The column found under a name has that name and is one of the table's. -/
theorem column?_eq_some {table : Table} {name : String} {column : Column}
    (found : table.column? name = some column) : column ∈ table.columns ∧ column.name = name := by
  refine ⟨List.mem_of_find?_eq_some found, ?_⟩
  simpa using List.find?_some found

/-- A table has a column of a name exactly if one of its columns is called so. -/
theorem hasColumn_iff {table : Table} {name : String} :
    table.hasColumn name = true ↔ ∃ column ∈ table.columns, column.name = name := by
  simp [hasColumn, column?]

end Table

end TypedQuery
