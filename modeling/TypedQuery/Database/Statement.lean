import TypedQuery.Database.Query

/-!
# Statements

What the database can be asked to do with its tables. A statement is bound to the tables before it
runs: they must be there, and so must the columns that it names. It then gives rows, or changes
them, and stops without any change at the first row that a constraint refuses or if references do
not hold in the end.
-/

namespace TypedQuery.Database

/-- How a transaction starts. -/
inductive Onset where
  /-- It does nothing before it has to. -/
  | deferred
  /-- It may write at once. -/
  | immediate
  /-- It may write at once, and nobody else uses the tables. -/
  | exclusive

/-- A statement. -/
inductive Statement where
  | select (query : Query)
  /-- Puts rows into a table, whose values are for the columns that are named, or for all. -/
  | insert (table : String) (columns : Option (List String)) (rows : List (List Expr))
  | update (table : String) (assignments : List (String × Expr)) (condition : Option Expr)
  | delete (table : String) (condition : Option Expr)
  /-- Makes a table. Its name is shown as it is written, and stands at an offset in the statement.
  The columns may be what cannot be read, which is of no account if the table is there already. -/
  | createTable (name shown : String) (offset : Nat) (onlyIfMissing : Bool)
      (columns : Except Failure (List StoredColumn))
  /-- Starts a transaction. -/
  | begin (onset : Onset)
  | commit
  | rollback
  /-- Asks whether references are enforced. -/
  | referencesEnforced
  /-- There is nothing to do. -/
  | nothing

/-- How a statement uses a table. -/
inductive Access where
  | nothing
  | reads (table : String)
  | writes (table : String)
  /-- It changes which tables there are. -/
  | definesTable

/-- Whether no table is used. -/
def Access.isNothing : Access → Bool
  | .nothing => true
  | .reads _ | .writes _ | .definesTable => false

namespace Statement

/-- The table that a statement uses, and how. -/
def access : Statement → Access
  | .select query =>
    match query.source with
    | some source => .reads source.table
    | none => .nothing
  | .insert table _ _ | .update table _ _ | .delete table _ => .writes table
  | .createTable .. => .definesTable
  | .begin _ | .commit | .rollback | .referencesEnforced | .nothing => .nothing

/-! ## Binding -/

/-- The number of values in each row, which must be the same in all. -/
def width (rows : List (List Expr)) : Except Mistake Nat :=
  let width := (rows.head?.map List.length).getD 0
  if rows.all (·.length = width) then .ok width else .error .unevenRows

/-- Refuses rows whose width is not that of the columns which they are for. -/
def checkWidth (table : StoredTable) (columns : Option (List String)) (width : Nat) :
    Except Mistake Unit :=
  match columns with
  | none =>
    let count := table.columns.length
    if width = count then .ok () else .error (.wrongWidth table.name count width)
  | some columns =>
    if width = columns.length then .ok () else .error (.wrongCount columns.length width)

/-- Refuses a change to columns of which one refers to a table that is not there. -/
def checkReferences (catalog : Catalog) (columns : List StoredColumn) : Except Mistake Unit :=
  match (columns.filterMap (·.references)).find? fun r => (catalog.table? r.table).isNone with
  | some reference => .error (.unknownReference reference.table)
  | none => .ok ()

/-- The values of a row for all columns of a table; what is not given is null. -/
def spread (table : StoredTable) (columns : List String) (row : List Expr) : List Expr :=
  table.columns.map fun column =>
    (((columns.zip row).find? (sameName ·.1 column.name)).map (·.2)).getD (.literal .null)

/-- Rows for a table, bound to it. -/
def bindRows (catalog : Catalog) (table : StoredTable) (columns : Option (List String))
    (rows : List (List Expr)) : Except Mistake (List (List Expr)) := do
  let width ← width rows
  match (columns.getD []).find? fun column => (table.columnIndex? column).isNone with
  | some column => throw (.notAColumn table.name column)
  | none =>
    let rows ← rows.mapM (bindAll {})
    checkWidth table columns width
    checkReferences catalog table.columns
    checkNumbers rows.flatten
    match columns with
    | none => return rows
    | some columns => return rows.map (spread table columns)

/-- An assignment, bound to the columns that it may name. -/
def bindAssignment (names : Names) (assignment : String × Expr) :
    Except Mistake (String × Expr) := do
  let (column, expr) := assignment
  let bound ← expr.resolve names
  if names.columns.any (sameName ·.name column) then return (column, bound)
  else throw (.unknownTarget column)

/-- Refuses columns of which two have one name, or two are the number of the row. -/
def checkDefinition (name : String) (columns : List StoredColumn) : Except Mistake Unit := do
  for (column, i) in columns.zipIdx do
    if (columns.take i).any (sameName ·.name column.name) then
      throw (.duplicateColumn column.name)
    if column.isKey && (columns.take i).any (·.isKey) then
      throw (.severalKeys name)

/-- What may be named in a statement about a table. -/
def namesOf (table : StoredTable) : Names :=
  { table := some table.name, columns := table.columns }

/-- A statement with everything in it replaced by what it stands for. -/
def bind (catalog : Catalog) : Statement → Except Mistake Statement
  | .select query => do return .select (← query.bind catalog)
  | .insert name columns rows => do
    let _ ← width rows
    let table ← catalog.tableOf name
    return .insert name none (← bindRows catalog table columns rows)
  | .update name assignments condition => do
    let table ← catalog.tableOf name
    let assignments ← assignments.mapM (bindAssignment (namesOf table))
    let condition ← bindAll (namesOf table) condition.toList
    checkReferences catalog (table.columns.filter fun column =>
      assignments.any (sameName ·.1 column.name))
    checkNumbers (assignments.map (·.2) ++ condition)
    return .update name assignments condition.head?
  | .delete name condition => do
    let table ← catalog.tableOf name
    let condition ← bindAll (namesOf table) condition.toList
    checkNumbers condition
    return .delete name condition.head?
  | .createTable name shown offset onlyIfMissing columns => do
    let isThere := (catalog.table? name).isSome
    if isThere && !onlyIfMissing then throw (.tableExists shown offset)
    let columns ← columns.mapError .misread
    if isThere then return .nothing
    checkDefinition name columns
    return .createTable name shown offset onlyIfMissing (.ok columns)
  | .begin onset => .ok (.begin onset)
  | .commit => .ok .commit
  | .rollback => .ok .rollback
  | .referencesEnforced => .ok .referencesEnforced
  | .nothing => .ok .nothing

/-! ## Running -/

/-- What a statement does: the tables after it, the rows that it gives, and the number of rows that
it wrote if it may write any. -/
structure Effect where
  catalog : Catalog
  rows : List RawRow := []
  changed : Option Nat := none
  /-- Whether the tables are others than before; a row may be written as it was. -/
  alters : Bool := false

/-- Puts rows into a table. -/
def insertRows (table : StoredTable) (rows : List (List Expr)) (params : List Value) :
    Except Stop StoredTable :=
  rows.foldlM (fun table row => do
    let values ← row.mapM (·.eval Scope.empty params)
    (table.insert none values).mapError .failure) table

/-- The rows of a table that a condition selects. -/
def selectedRows (table : StoredTable) (condition : Option Expr) (params : List Value) :
    Except Stop (List StoredRow) :=
  table.rows.filterM fun row => Query.meets condition ⟨table.columns, row.cells, row.number⟩ params

/-- Changes the rows that a condition selects; the table and how many there were. -/
def updateRows (table : StoredTable) (assignments : List (String × Expr)) (condition : Option Expr)
    (params : List Value) : Except Stop (StoredTable × Nat) := do
  let rows ← selectedRows table condition params
  let changed ← rows.foldlM (fun changed row => do
    let scope : Scope := ⟨table.columns, row.cells, row.number⟩
    let cells ← assignments.foldlM (fun cells (name, expr) => do
      let value ← expr.eval scope params
      return match table.columnIndex? name with
        | some i => List.set cells i value
        | none => cells) row.cells
    ((changed.erase row.number).insert (some row.number) cells).mapError .failure) table
  return (changed, rows.length)

/-- Takes the rows out of a table that a condition selects; the table and how many there were. -/
def deleteRows (table : StoredTable) (condition : Option Expr) (params : List Value) :
    Except Stop (StoredTable × Nat) := do
  let rows ← selectedRows table condition params
  return (rows.foldl (fun table row => table.erase row.number) table, rows.length)

/-- The failure of a statement after which references do not hold. -/
def danglingReference : Failure := .code 787 "FOREIGN KEY constraint failed"

/-- The effect of writing a number of rows of a table, unless references do not hold after it. -/
def settled (catalog : Catalog) (table after : StoredTable) (count : Nat) : Except Stop Effect :=
  let changed := catalog.replace after
  if changed.referencesHold then
    .ok { catalog := changed, changed := some count, alters := !table.sameRows after }
  else .error (.failure danglingReference)

/-- Whether a statement that stops has changed rows, which are then changed back. This is so if
references do not hold after it; only those of a single new row are looked at before it is put
in. -/
def changesBack (statement : Statement) : Stop → Bool
  | .failure failure =>
    failure = danglingReference && match statement with
      | .insert _ _ [_] => false
      | _ => true
  | .unreadable => false

/-- What a running statement finds. -/
def found {α : Type} (outcome : Except Mistake α) : Except Stop α :=
  outcome.mapError fun mistake => .failure (mistake.toFailure "")

/-- The effect of making a table. Another connection may have made it since the statement was bound;
the place of the name in the statement is not looked up any more then. -/
def define (catalog : Catalog) (name shown : String) (onlyIfMissing : Bool)
    (columns : List StoredColumn) : Except Stop Effect :=
  if (catalog.table? name).isNone then
    .ok { catalog := catalog.add ⟨name, columns, []⟩, alters := true }
  else if onlyIfMissing then .ok { catalog }
  else .error (.failure (Mistake.refused s!"table {shown} already exists"))

/-- Runs a statement that has been bound. -/
def run (catalog : Catalog) (params : List Value) : Statement → Except Stop Effect
  | .select query => do
    let table ← found (query.table? catalog)
    return { catalog, rows := ← query.rows table params }
  | .insert name _ rows => do
    let table ← found (catalog.tableOf name)
    settled catalog table (← insertRows table rows params) rows.length
  | .update name assignments condition => do
    let table ← found (catalog.tableOf name)
    let (after, count) ← updateRows table assignments condition params
    settled catalog table after count
  | .delete name condition => do
    let table ← found (catalog.tableOf name)
    let (after, count) ← deleteRows table condition params
    settled catalog table after count
  | .createTable name shown _ onlyIfMissing columns => do
    define catalog name shown onlyIfMissing (← columns.mapError .failure)
  | .referencesEnforced => .ok { catalog, rows := [[.integer 1]] }
  | .begin _ | .commit | .rollback | .nothing => .ok { catalog }

end Statement

end TypedQuery.Database
