import TypedQuery.Database.Binding
import TypedQuery.Database.Failure
import TypedQuery.Database.Numeral
import TypedQuery.Text.Occurrence

/-!
# Tables with their rows

A database holds tables, and a table holds rows in the order of their numbers. A column may be the
number of the row; it may refuse null; and it may refer to a column whose values its own must be
among. A column also has an affinity, the kind of value it prefers: what is put into it is converted
to that kind if nothing is lost.

The constraints of single rows are checked as rows are put in, references when a statement has
ended, so a statement may pass through states in which they do not hold.
-/

namespace TypedQuery.Database

/-- Whether two names are one, letter case of ASCII letters aside. -/
def sameName (a b : String) : Bool := a.toLower = b.toLower

/-- The kind of value that a column prefers. -/
inductive Affinity where
  | text
  | integer
  | real
  | numeric
  /-- No kind is preferred. -/
  | any
  deriving DecidableEq

/-- The affinity that the type of a column has by its name. -/
def Affinity.ofTypeName (name : String) : Affinity :=
  let name := name.toUpper.toList
  if Text.occursIn "INT".toList name then .integer
  else if ["CHAR", "CLOB", "TEXT"].any fun word => Text.occursIn word.toList name then .text
  else if name.isEmpty || Text.occursIn "BLOB".toList name then .any
  else if ["REAL", "FLOA", "DOUB"].any fun word => Text.occursIn word.toList name then .real
  else .numeric

/-- A number as text. -/
def textOfNumber : Value → Value
  | .integer i => .text (toString i.toInt)
  | .real x => .text (String.ofList (Decimal.Layout.database.write x))
  | v => v

/-- A value as an integer if it is a whole number. -/
def integerIfWhole : Value → Value
  | .real x =>
    match wholeNumber? x with
    | some i => .integer i
    | none => .real x
  | v => v

/-- A text as the number that it spells, and other values as they are. -/
def numberIfSpelled : Value → Value
  | .text s => ((Numeral.ofChars s.toList).value?).getD (.text s)
  | v => v

/-- A value converted to the kind that a column prefers, or as it is where that would lose
something. -/
def Affinity.apply (affinity : Affinity) (value : Value) : Value :=
  match affinity with
  | .text => textOfNumber value
  | .integer | .numeric => integerIfWhole (numberIfSpelled value)
  | .real =>
    match integerIfWhole (numberIfSpelled value) with
    | .integer i => .real i.toFloat
    | v => v
  | .any => value

/-- What a column refers to: a table, and the column there that holds the values which it may have.
If no column is named, it is the one that is the number of the row. -/
structure Reference where
  table : String
  column : Option String

/-- A column. -/
structure StoredColumn where
  name : String
  affinity : Affinity
  /-- Whether the column is the number of the row. -/
  isKey : Bool := false
  notNull : Bool := false
  references : Option Reference := none

/-- A row with its number. -/
structure StoredRow where
  number : Int64
  cells : List Value

/-- A table. -/
structure StoredTable where
  name : String
  columns : List StoredColumn
  rows : List StoredRow := []

/-- The tables of a database. -/
structure Catalog where
  tables : List StoredTable := []

namespace StoredTable

/-- The position of a column. -/
def columnIndex? (table : StoredTable) (name : String) : Option Nat :=
  table.columns.findIdx? fun column => sameName column.name name

/-- A number that no row has: one of so many in the middle of the positive ones that not all of them
can be taken. -/
def freeNumber (table : StoredTable) : Int64 :=
  let candidates := (List.range (table.rows.length + 1)).map fun i => Int64.ofNat (Nat.pow 2 61 + i)
  (candidates.find? fun number => table.rows.all (·.number ≠ number)).getD 1

/-- The number for a row that comes without one: the one after the largest. If that is the largest
of all, any other will do. -/
def nextNumber (table : StoredTable) : Int64 :=
  match table.rows.getLast? with
  | some row => if row.number < Int64.maxValue then row.number + 1 else table.freeNumber
  | none => 1

/-- The number that a row is to have by its cells and by the number that it had before, if it had
one. Only a new row may leave its number open. -/
def numberFor (table : StoredTable) (before : Option Int64) (cells : List Value) :
    Except Failure Int64 :=
  match (table.columns.zip cells).find? fun (column, _) => column.isKey with
  | none => .ok (before.getD table.nextNumber)
  | some (_, .integer i) => .ok i
  | some (_, cell) =>
    if cell.isNull && before.isNone then .ok table.nextNumber
    else .error (.code 20 "datatype mismatch")

/-- Puts a row among others, which are in the order of their numbers. -/
def insertSorted (row : StoredRow) : List StoredRow → List StoredRow
  | [] => [row]
  | first :: rest =>
    if row.number < first.number then row :: first :: rest else first :: insertSorted row rest

/-- Puts a row into a table, its values converted to what the columns prefer; `before` is the number
that it had until now, if it is not new. -/
def insert (table : StoredTable) (before : Option Int64) (values : List Value) :
    Except Failure StoredTable := do
  let cells := List.zipWith (fun column value => column.affinity.apply value) table.columns values
  let number ← table.numberFor before cells
  let cells := List.zipWith (fun column cell => if column.isKey then .integer number else cell)
    table.columns cells
  match (table.columns.zip cells).find? fun (column, cell) => column.notNull && cell.isNull with
  | some (column, _) =>
    throw (.code 1299 s!"NOT NULL constraint failed: {table.name}.{column.name}")
  | none =>
    if table.rows.any (·.number = number) then
      let key := (table.columns.find? (·.isKey)).elim "rowid" (·.name)
      throw (.code 1555 s!"UNIQUE constraint failed: {table.name}.{key}")
    else return { table with rows := insertSorted ⟨number, cells⟩ table.rows }

/-- Takes a row out of a table. -/
def erase (table : StoredTable) (number : Int64) : StoredTable :=
  { table with rows := table.rows.filter (·.number ≠ number) }

/-- Whether two states of a table have the same rows. -/
def sameRows (table other : StoredTable) : Bool :=
  table.rows.length = other.rows.length &&
    (table.rows.zip other.rows).all fun (a, b) =>
      a.number = b.number && a.cells.length = b.cells.length &&
        (a.cells.zip b.cells).all fun (x, y) => x.same y

/-- The columns with the values that they hold. -/
def contents (table : StoredTable) : List (StoredColumn × List Value) :=
  table.columns.zipIdx.map fun (column, i) => (column, table.rows.filterMap (·.cells[i]?))

/-- The column that a reference to the table means, and the values that it holds. -/
def referred? (table : StoredTable) (reference : Reference) : Option (StoredColumn × List Value) :=
  table.contents.find? fun (column, _) =>
    match reference.column with
    | some name => sameName column.name name
    | none => column.isKey

end StoredTable

namespace Catalog

/-- The table of a name. -/
def table? (catalog : Catalog) (name : String) : Option StoredTable :=
  catalog.tables.find? fun table => sameName table.name name

/-- Replaces the table of the same name. -/
def replace (catalog : Catalog) (table : StoredTable) : Catalog :=
  ⟨catalog.tables.map fun other => if sameName other.name table.name then table else other⟩

/-- Adds a table. -/
def add (catalog : Catalog) (table : StoredTable) : Catalog :=
  ⟨catalog.tables ++ [table]⟩

/-- Whether values occur where a reference says, or are null. They are converted to what the column
there prefers. -/
def refersTo (catalog : Catalog) (reference : Reference) (values : List Value) : Bool :=
  let referred := (catalog.table? reference.table).bind (·.referred? reference)
  values.all fun value =>
    value.isNull || referred.any fun (column, allowed) =>
      allowed.any (column.affinity.apply value).same

/-- Whether every value of a column that refers to another is null or occurs there. -/
def referencesHold (catalog : Catalog) : Bool :=
  catalog.tables.all fun table => table.contents.all fun (column, values) =>
    column.references.all fun reference => catalog.refersTo reference values

end Catalog

end TypedQuery.Database
