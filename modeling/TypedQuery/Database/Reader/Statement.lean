import TypedQuery.Database.Reader.Expression
import TypedQuery.Database.Statement

/-!
# Reading statements

The grammar of statements. A statement ends at a semicolon or with the text.
-/

namespace TypedQuery.Database.Reader

/-! ## Queries -/

/-- The condition of a statement, if it has one. -/
def condition : Reader (Option Expr) := do
  if ← keyword? "where" then return some (← expression) else return none

/-- Another name for what stands in front of it, if there is one. -/
def alias? : Reader (Option String) := do
  if ← keyword? "as" then return some (← name) else next? nameOf?

/-- What a query gives for a row. -/
def item : Reader Item := do
  if ← mark? "*" then return .allColumns
  if ← comes [isName, isMark ".", isMark "*"] then
    let table ← name
    mark "."
    mark "*"
    return .columnsOf table
  let expr ← expression
  return .value expr (← alias?)

/-- What a query gives. What it calls the number of rows is of no account. -/
def selection : Reader Selection := do
  if ← comes [isKeyword "count", isMark "("] then
    keyword "count"
    mark "("
    let _ ← mark? "*"
    mark ")"
    let _ ← alias?
    return .rowCount
  else return .items (← list item)

/-- The table that a query is about, if it is about one. -/
def source : Reader (Option Source) := do
  if ← keyword? "from" then
    let table ← name
    return some ⟨table, ← alias?⟩
  else return none

/-- A term of an order. -/
def term : Reader Term := do
  let expr ← expression
  if ← keyword? "desc" then return ⟨expr, true⟩
  let _ ← keyword? "asc"
  return ⟨expr, false⟩

/-- The order of rows, if it is stated. -/
def order : Reader (List Term) := do
  if ← keyword? "order" then
    keyword "by"
    list term
  else return []

/-- The limit of a query and the number of rows that it leaves out, as far as they are stated. -/
def window : Reader (Option Expr × Option Expr) := do
  if ← keyword? "limit" then
    let first ← expression
    if ← mark? "," then return (some (← expression), some first)
    else if ← keyword? "offset" then return (some first, some (← expression))
    else return (some first, none)
  else return (none, none)

/-- The rest of a query. -/
def query : Reader Statement := do
  let selection ← selection
  let source ← source
  let condition ← condition
  let order ← order
  let (limit, offset) ← window
  return .select { selection, source, condition, order, limit, offset }

/-! ## Changes -/

/-- The rest of a statement that adds rows. -/
def insert : Reader Statement := do
  keyword "into"
  let table ← name
  let columns ← if ← comes [isMark "("] then some <$> bracketed (list name) else pure none
  if ← keyword? "default" then
    keyword "values"
    return .insert table (some []) [[]]
  keyword "values"
  return .insert table columns (← list (bracketed (list expression)))

/-- The rest of a statement that changes rows. -/
def update : Reader Statement := do
  let table ← name
  keyword "set"
  let assignments ← list do
    let column ← name
    next fun token => if isMark "=" token || isMark "==" token then some () else none
    return (column, ← expression)
  return .update table assignments (← condition)

/-- The rest of a statement that takes rows out. -/
def delete : Reader Statement := do
  keyword "from"
  return .delete (← name) (← condition)

/-! ## Tables -/

/-- The constraints of a column, added to it; `fuel` bounds their number. The key of a table is the
number of its rows if it is an integer by the very name. -/
def constraints (type : String) (column : StoredColumn) : Nat → Reader StoredColumn
  | 0 => return column
  | fuel + 1 => do
    if ← keyword? "primary" then
      keyword "key"
      constraints type { column with isKey := sameName type "integer" } fuel
    else if ← keyword? "not" then
      keyword "null"
      constraints type { column with notNull := true } fuel
    else if ← keyword? "null" then constraints type column fuel
    else if ← keyword? "references" then
      let table ← name
      let referred ← if ← comes [isMark "("] then some <$> bracketed name else pure none
      constraints type { column with references := some ⟨table, referred⟩ } fuel
    else return column

/-- The definition of a column. -/
def column : Reader StoredColumn := do
  let name ← name
  let type ← typeName
  constraints type { name, affinity := .ofTypeName type } (← get).tokens.length

/-- The end of a statement. -/
def statementEnd : Reader Unit := do
  if (← get).tokens.isEmpty then return
  mark ";"

/-- The columns of a new table up to the end of the statement, or the failure to read them. -/
def columns : Reader (Except Failure (List StoredColumn)) := do
  let reader : Reader (List StoredColumn) := do
    let found ← list column
    mark ")"
    statementEnd
    return found
  let outcome := reader.run (← get)
  modify fun state => { state with tokens := [] }
  return outcome.map (·.1)

/-- The rest of a statement that makes a table. -/
def createTable : Reader Statement := do
  keyword "table"
  let onlyIfMissing ← keyword? "if"
  if onlyIfMissing then
    keyword "not"
    keyword "exists"
  let (name, token) ← place
  mark "("
  let shown := String.ofList token.lexeme.text
  return .createTable name shown token.offset onlyIfMissing (← columns)

/-! ## Statements -/

/-- The word for a transaction, which may be left out. -/
def transactionWord : Reader Unit := do
  let _ ← keyword? "transaction"

/-- The rest of a statement that starts a transaction. -/
def begin : Reader Statement := do
  let onset ← next? (meaning?
    [("deferred", .deferred), ("immediate", .immediate), ("exclusive", .exclusive)])
  transactionWord
  return .begin (onset.getD .deferred)

/-- A statement. -/
def statement : Reader Statement := do
  if ← keyword? "select" then query
  else if ← keyword? "insert" then insert
  else if ← keyword? "update" then update
  else if ← keyword? "delete" then delete
  else if ← keyword? "create" then createTable
  else if ← keyword? "begin" then begin
  else if ← skip fun token => isKeyword "commit" token || isKeyword "end" token then
    transactionWord
    return .commit
  else if ← keyword? "rollback" then
    transactionWord
    return .rollback
  else
    keyword "pragma"
    return if sameName (← name) "foreign_keys" then .referencesEnforced else .nothing

/-- A statement up to its end. -/
def wholeStatement : Reader Statement := do
  let found ← statement
  statementEnd
  return found

end TypedQuery.Database.Reader
