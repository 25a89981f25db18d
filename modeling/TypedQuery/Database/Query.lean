import TypedQuery.Database.Expression
import TypedQuery.Row.Mapping

/-!
# Queries

A query selects rows of a table, or the one row that there is outside of any, puts them in order,
and takes a window of them. What it gives for each row are the values of its items.

A query is bound to the tables before it runs: the table must be there, and so must what the query
names. A term of the order may name an item, or give its position.
-/

namespace TypedQuery.Database

/-! ## Binding expressions -/

/-- Expressions with their names replaced by what they stand for. -/
def bindAll (names : Names) (exprs : List Expr) : Except Mistake (List Expr) :=
  exprs.mapM (·.resolve names)

/-- Refuses expressions in which a number does not fit 64 bits. Of several numbers the last one is
named. -/
def checkNumbers (exprs : List Expr) : Except Mistake Unit :=
  match (exprs.filterMap Expr.tooBig?).getLast? with
  | some mistake => .error mistake
  | none => .ok ()

/-! ## Parts of a query -/

/-- What a query gives for a row. -/
inductive Item where
  | allColumns
  /-- The columns of the table that goes by a name. -/
  | columnsOf (table : String)
  | value (expr : Expr) (name : Option String)

/-- What a query gives. -/
inductive Selection where
  /-- The number of rows. -/
  | rowCount
  | items (items : List Item)

/-- The table that a query is about. -/
structure Source where
  table : String
  sourceAlias : Option String

/-- The name that the columns of a source go by. -/
def Source.name (source : Source) : String := source.sourceAlias.getD source.table

/-- A term of the order of rows. -/
structure Term where
  expr : Expr
  descending : Bool

/-- A query. -/
structure Query where
  selection : Selection
  source : Option Source
  condition : Option Expr
  order : List Term
  /-- How many rows are given at most; a number below zero is no limit. -/
  limit : Option Expr
  /-- How many rows are left out at the start. -/
  offset : Option Expr

/-! ## Binding queries -/

/-- The table of a name, which must be there. -/
def Catalog.tableOf (catalog : Catalog) (name : String) : Except Mistake StoredTable :=
  match catalog.table? name with
  | some table => .ok table
  | none => .error (.unknownTable name)

/-- What an item gives, by expressions over the columns of a table. -/
def Item.results (names : Names) : Item → Except Mistake (List (Expr × Option String))
  | .allColumns => if names.table.isNone then .error .noTables else .ok columns
  | .columnsOf table =>
    if names.table.any (sameName table) then .ok columns else .error (.otherTable table)
  | .value expr name => .ok [(expr, name)]
where
  /-- All columns, which are not named otherwise. -/
  columns : List (Expr × Option String) :=
    names.columns.map fun column => (.column ⟨none, column.name, 0, none⟩, none)

/-- The integer that an expression is written as, with its place in the statement. -/
def Expr.ordinal? : Expr → Option (Int × Nat)
  | .number spelling offset =>
    match numberOfLiteral false spelling with
    | .integer i => if 0 ≤ i ∧ i < 2147483648 then some (i.toInt, offset) else none
    | _ => none
  | .unary .negated operand => operand.ordinal?.map fun (i, offset) => (-i, offset)
  | .unary .unchanged operand => operand.ordinal?
  | _ => none

/-- The result that a term of the order names. -/
def Expr.resultNamed? (names : Names) : Expr → Option Expr
  | .column ⟨none, name, _, _⟩ => (names.results.find? (sameName ·.1 name)).map (·.2)
  | _ => none

/-- What the term at a position of the order stands for: a result that it numbers or names, or an
expression over columns and results. A number beyond the last result stands for nothing as yet. -/
def Term.bind (names : Names) (results : List Expr) (position : Nat) (term : Term) :
    Except Mistake Term := do
  let expr ← match term.expr.ordinal?, term.expr.resultNamed? names with
    | some (i, offset), _ =>
      if i < 1 then throw (.noSuchResult (position + 1) results.length (some offset))
      else pure (results[(i - 1).toNat]?.getD (.literal .null))
    | none, some found => pure found
    | none, none => term.expr.resolve names
  return { term with expr }

/-- Refuses an order in which a term numbers a result beyond the last one. -/
def checkOrdinals (results : Nat) (order : List Term) : Except Mistake Unit :=
  match order.findIdx? (·.expr.ordinal?.any fun (i, _) => (results : Int) < i) with
  | some position => .error (.noSuchResult (position + 1) results none)
  | none => .ok ()

namespace Query

/-- The table that a query is about, if it is about one. -/
def table? (catalog : Catalog) (query : Query) : Except Mistake (Option StoredTable) :=
  query.source.mapM fun source => catalog.tableOf source.table

/-- A query with everything in it replaced by what it stands for. -/
def bind (catalog : Catalog) (query : Query) : Except Mistake Query := do
  let table ← query.table? catalog
  let columns := (table.map (·.columns)).getD []
  let names : Names := { table := query.source.map (·.name), columns }
  let results ← match query.selection with
    | .rowCount => pure [(.literal .null, none)]
    | .items items => List.flatten <$> items.mapM (·.results names)
  let window ← bindAll {} (query.limit.toList ++ query.offset.toList)
  let exprs ← bindAll names (results.map (·.1))
  let aliases := (exprs.zip results).filterMap fun (expr, _, name) => name.map (·, expr)
  let condition ← bindAll { names with results := aliases } query.condition.toList
  let order ← query.order.zipIdx.mapM fun (term, i) =>
    term.bind { names with results := aliases } exprs i
  checkOrdinals exprs.length query.order
  checkNumbers (exprs ++ condition ++ order.map (·.expr) ++ window)
  return { query with
    selection := match query.selection with
      | .rowCount => .rowCount
      | .items _ => .items (exprs.map fun expr => .value expr none)
    condition := condition.head?
    order }

/-! ## Running queries -/

/-- Whether an expression is the number of the row. -/
def isNumberOfRow (columns : List StoredColumn) : Expr → Bool
  | .rowNumber => true
  | .column c => columns.any fun column => column.isKey && sameName column.name c.name
  | _ => false

/-- The expression that a condition wants the number of the row to be equal to. -/
def soughtNumber? (columns : List StoredColumn) : Expr → Option Expr
  | .binary .equal left right =>
    if isNumberOfRow columns left && right.isConstant then some right
    else if isNumberOfRow columns right && left.isConstant then some left
    else none
  | _ => none

/-- Whether a row meets an expression. A row whose number is sought is not compared but looked up,
and no row is found by what does not become an integer. -/
def meetsExpr (scope : Scope) (params : List Value) : Expr → Except Stop Bool
  | .binary .both left right => do
    if ← meetsExpr scope params left then meetsExpr scope params right else return false
  | expr =>
    match soughtNumber? scope.columns expr with
    | some sought => do
      let number := Affinity.integer.apply (← sought.eval scope params)
      return number.same (.integer scope.number)
    | none => do return truth (← expr.eval scope params) = some true

/-- Whether a row meets a condition, if there is one. -/
def meets (condition : Option Expr) (scope : Scope) (params : List Value) : Except Stop Bool :=
  match condition with
  | none => .ok true
  | some expr => meetsExpr scope params expr

/-- The rows of a table, or the one outside of any. -/
def scopes (table : Option StoredTable) : List Scope :=
  match table with
  | some table => table.rows.map fun row => ⟨table.columns, row.cells, row.number⟩
  | none => [Scope.empty]

/-- Whether the values of the terms of an order put a row in front of another, or beside it. -/
def inOrder : List Term → List Value → List Value → Bool
  | term :: terms, a :: as, b :: bs =>
    match compareValues a b with
    | .lt => !term.descending
    | .eq => inOrder terms as bs
    | .gt => term.descending
  | _, _, _ => true

/-- The values of an item for a row. -/
def itemValues (scope : Scope) (params : List Value) : Item → Except Stop (List Value)
  | .allColumns | .columnsOf _ => .ok scope.cells
  | .value expr _ => do return [← expr.eval scope params]

/-- The integer that a part of the window is. -/
def windowPart (params : List Value) (expr : Expr) : Except Stop Int := do
  match Affinity.numeric.apply (← expr.eval Scope.empty params) with
  | .integer i => return i.toInt
  | _ => throw (.failure (.code 20 "datatype mismatch"))

/-- The window of some rows: those behind an offset, up to a limit unless that is below zero. -/
def inWindow {α : Type} (limit offset : Option Int) (found : List α) : List α :=
  let found := found.drop (offset.getD 0).toNat
  match limit with
  | some count => if 0 ≤ count then found.take count.toNat else found
  | none => found

/-- The rows of a query on a table. With a limit of zero nothing else is looked at. -/
def rows (query : Query) (table : Option StoredTable) (params : List Value) :
    Except Stop (List RawRow) := do
  let limit ← query.limit.mapM (windowPart params)
  if limit = some 0 then return []
  let offset ← query.offset.mapM (windowPart params)
  let selected ← (scopes table).filterM fun scope => meets query.condition scope params
  let keyed ← selected.mapM fun scope => do
    return (← query.order.mapM (·.expr.eval scope params), scope)
  let sorted := (keyed.mergeSort fun a b => inOrder query.order a.1 b.1).map (·.2)
  match query.selection with
  | .rowCount => return inWindow limit offset [[.integer (Int64.ofNat sorted.length)]]
  | .items items =>
    let found ← sorted.mapM fun scope => List.flatten <$> items.mapM (itemValues scope params)
    return inWindow limit offset found

end Query

end TypedQuery.Database
