import TypedQuery.Plan.Basic
import TypedQuery.Reference
import TypedQuery.Schema.Registry
import TypedQuery.Text.Blank
import TypedQuery.Text.LikePattern
import TypedQuery.Text.LowerCase

/-!
# Drafts of plans

A draft is a plan in the making. Each step names tables and columns by text and is checked against
the registry when it is taken, so the first wrong step is the one that fails. The first step chooses
the primary table; only the cut of the result may be set before. Tables come into scope by the
primary table and by joins, and a column can be named from then on.

What a draft holds is resolved already. The last step, `Draft.build`, has only to check that the
selected columns, the aggregates and the grouping go together, and to select all columns of the
primary table if nothing else was selected.
-/

namespace TypedQuery

namespace Draft

/-- What has been chosen from the primary table on. -/
structure Body where
  source : TableScope
  sourceTable : Table
  /-- The scopes of the joins in order, with their tables. -/
  joined : List (String × Table) := []
  columns : List SelectedColumn := []
  joins : List Join := []
  predicates : List Predicate := []
  groupBy : List ColumnRef := []
  aggregates : List Aggregate := []
  orderBy : List OrderTerm := []

end Draft

/-- A plan in the making. -/
structure Draft where
  registry : Registry
  body : Option Draft.Body := none
  limit : Option UInt64 := none
  offset : Option UInt64 := none

/-- The reference to the first column of a name of a table, under a scope. -/
def Table.columnRef (table : Table) (scope name : String) : Except QueryError ColumnRef :=
  match table.column? name with
  | some column => .ok ⟨scope, table.name, column.name, column.dataType, column.nullable⟩
  | none => .error (.unknownColumn scope name)

/-- A column as it is written in a predicate and in a query: the quoted scope, a point and the
quoted name. -/
def ColumnRef.chars (ref : ColumnRef) : List Char :=
  Text.quotedName ref.scope ++ '.' :: Text.quotedName ref.column

namespace Draft.Body

/-- The scopes, the primary table first. -/
def scopes (body : Body) : List (String × Table) :=
  (body.source.name, body.sourceTable) :: body.joined

/-- The table of a scope. -/
def scopeTable? (body : Body) (scope : String) : Option Table :=
  (body.scopes.find? (·.1 = scope)).map (·.2)

/-- The column of a name in a scope, or in the only scope that has one. -/
def resolve (body : Body) (qualifier : Option String) (name : String) :
    Except QueryError ColumnRef :=
  match qualifier with
  | some scope =>
    match body.scopeTable? scope with
    | some table => table.columnRef scope name
    | none => .error (.unknownTable scope)
  | none =>
    match body.scopes.filter fun (_, table) => table.hasColumn name with
    | [] => .error (.unknownColumn body.source.name name)
    | [(scope, table)] => table.columnRef scope name
    | many => .error (.ambiguousColumn name (many.map (·.1)))

/-- The column that a text names, which may have neither a star nor an alias. -/
def resolvePlain (body : Body) (spec : String) : Except QueryError ColumnRef := do
  let parts ← ColumnSpec.ofString spec
  match parts.column, parts.outputAlias with
  | .named name, none => body.resolve parts.qualifier name
  | _, _ => throw (.invalidPlan (.notOneColumn spec))

/-- Adds a column to the result. Names of columns may repeat but not be the alias of an
aggregate. -/
def pushColumn (body : Body) (selected : SelectedColumn) : Except QueryError Body :=
  if body.aggregates.any (·.outputAlias = selected.outputName) then
    .error (.duplicateAlias selected.outputName)
  else .ok { body with columns := body.columns ++ [selected] }

/-- Adds the columns that a text names: all of a scope, or one. A star without a scope stands for
the primary table. -/
def selectColumn (body : Body) (spec : String) : Except QueryError Body := do
  let parts ← ColumnSpec.ofString spec
  match parts.column with
  | .star =>
    if parts.outputAlias.isSome then throw (.invalidPlan (.aliasedWildcard spec))
    let scope := parts.qualifier.getD body.source.name
    match body.scopeTable? scope with
    | some table =>
      table.columns.foldlM (fun body column => do
        let ref ← table.columnRef scope column.name
        body.pushColumn ⟨ref, none⟩) body
    | none => throw (.unknownTable scope)
  | .named name =>
    let ref ← body.resolve parts.qualifier name
    body.pushColumn ⟨ref, parts.outputAlias⟩

/-- Joins a table under its name or an alias. The condition must have one side in the joined table
and the other in a table that is there already. -/
def join (body : Body) (registry : Registry) (kind : JoinKind) (target : TableScope)
    (left right : String) : Except QueryError Body := do
  let table ← registry.lookup target.table
  if (body.scopeTable? target.name).isSome then throw (.duplicateAlias target.name)
  let wider := { body with joined := body.joined ++ [(target.name, table)] }
  let left ← wider.resolvePlain left
  let right ← wider.resolvePlain right
  if decide (left.scope = target.name) = decide (right.scope = target.name) then
    throw (.invalidPlan (.unrelatedJoin left.qualifiedName right.qualifiedName target.name))
  return { wider with joins := body.joins ++ [⟨kind, target, left, right⟩] }

/-- Adds a condition. -/
def pushPredicate (body : Body) (predicate : Predicate) : Body :=
  { body with predicates := body.predicates ++ [predicate] }

/-- Adds a condition in the store's language, with a value for each placeholder. -/
def whereRaw (body : Body) (fragment : String) (params : List Value) : Except QueryError Body := do
  if Text.isBlankText fragment then throw (.invalidPlan .emptyPredicate)
  match Text.numberedOrNamed? fragment with
  | some found => throw (.invalidPlan (.placeholderStyle found fragment))
  | none =>
    let placeholders := Text.placeholderCount fragment
    if placeholders ≠ params.length then
      throw (.parameterCountMismatch fragment placeholders params.length)
    return body.pushPredicate ⟨fragment, params⟩

/-- Adds the condition that a column equals a value. -/
def whereEq (body : Body) (column : String) (value : Value) : Except QueryError Body := do
  let ref ← body.resolvePlain column
  return body.pushPredicate ⟨String.ofList (ref.chars ++ [' ', '=', ' ', '?']), [value]⟩

/-- Adds the condition that a column contains a term, capitals or not. -/
def whereContains (body : Body) (column term : String) : Except QueryError Body := do
  let ref ← body.resolvePlain column
  let text := "LOWER(".toList ++ ref.chars ++ ") LIKE ? ESCAPE '\\'".toList
  return body.pushPredicate
    ⟨String.ofList text, [.text (Text.containsPattern (Text.lowerCase term))]⟩

/-- Groups the rows by a column, after the ones that they are grouped by already. -/
def groupColumn (body : Body) (spec : String) : Except QueryError Body := do
  let ref ← body.resolvePlain spec
  return { body with groupBy := body.groupBy ++ [ref] }

/-- Adds an aggregate to the result, under an alias that nothing else in the result has. -/
def aggregate (body : Body) (kind : AggregateKind) (sources : List String) (outputAlias : String) :
    Except QueryError Body := do
  if sources.length ≠ kind.arity then throw (.invalidPlan (.wrongArity kind sources.length))
  if Text.isBlankText outputAlias then throw (.invalidPlan (.blankAlias kind))
  if body.aggregates.any (·.outputAlias = outputAlias) ||
      body.columns.any (·.outputName = outputAlias) then
    throw (.duplicateAlias outputAlias)
  let refs ← sources.mapM body.resolvePlain
  return { body with aggregates := body.aggregates ++ [⟨kind, refs, outputAlias⟩] }

/-- Orders the rows by an alias of the result, or else by a column, after the ones that they are
ordered by already. -/
def orderRows (body : Body) (target : String) (direction : Direction) : Except QueryError Body := do
  let isAlias := body.aggregates.any (·.outputAlias = target) ||
    body.columns.any (·.outputAlias = some target)
  let target ←
    if isAlias then pure (OrderTarget.outputAlias target)
    else OrderTarget.column <$> body.resolvePlain target
  return { body with orderBy := body.orderBy ++ [⟨target, direction⟩] }

/-- The selected columns, which are those of the primary table if nothing was selected. -/
def finalColumns (body : Body) : Except QueryError (List SelectedColumn) :=
  if body.columns.isEmpty && body.aggregates.isEmpty then
    body.sourceTable.columns.mapM fun column => do
      return ⟨← body.sourceTable.columnRef body.source.name column.name, none⟩
  else .ok body.columns

end Draft.Body

namespace Draft

/-- The draft in which nothing has been chosen. -/
def new (registry : Registry) : Draft := { registry }

/-- Takes a step that needs the primary table. -/
def extend (draft : Draft) (step : Body → Except QueryError Body) : Except QueryError Draft :=
  match draft.body with
  | some body => (step body).map fun body => { draft with body := some body }
  | none => .error (.invalidPlan .primaryTableFirst)

/-- Chooses the primary table. -/
def selectFrom (draft : Draft) (spec : String) : Except QueryError Draft := do
  if draft.body.isSome then throw (.invalidPlan .primaryTableSet)
  let parts ← TableSpec.ofString spec
  let table ← draft.registry.lookup parts.table
  let body : Body := { source := ⟨parts.table, parts.scopeAlias⟩, sourceTable := table }
  return { draft with body := some body }

/-- Adds columns to the result. -/
def selectColumns (draft : Draft) (specs : List String) : Except QueryError Draft :=
  draft.extend fun body => specs.foldlM Body.selectColumn body

/-- Joins a table. -/
def join (draft : Draft) (kind : JoinKind) (target : TableScope) (left right : String) :
    Except QueryError Draft :=
  draft.extend fun body => body.join draft.registry kind target left right

/-- Joins a table that is named by a text, which may have an alias. -/
def joinSpec (draft : Draft) (kind : JoinKind) (spec left right : String) :
    Except QueryError Draft := do
  let parts ← TableSpec.ofString spec
  draft.join kind ⟨parts.table, parts.scopeAlias⟩ left right

/-- Adds a condition in the store's language. -/
def whereRaw (draft : Draft) (fragment : String) (params : List Value) : Except QueryError Draft :=
  draft.extend (·.whereRaw fragment params)

/-- Adds the condition that a column equals a value. -/
def whereEq (draft : Draft) (column : String) (value : Value) : Except QueryError Draft :=
  draft.extend (·.whereEq column value)

/-- Adds the condition that a column contains a term. -/
def whereContains (draft : Draft) (column term : String) : Except QueryError Draft :=
  draft.extend (·.whereContains column term)

/-- Groups the rows by columns. -/
def groupBy (draft : Draft) (specs : List String) : Except QueryError Draft :=
  draft.extend fun body => specs.foldlM Body.groupColumn body

/-- Adds an aggregate to the result. -/
def aggregate (draft : Draft) (kind : AggregateKind) (sources : List String)
    (outputAlias : String) : Except QueryError Draft :=
  draft.extend (·.aggregate kind sources outputAlias)

/-- Adds an aggregate that is named by a text: its column and, after it, its alias. A count may have
a star for its column and then counts rows. -/
def aggregateSpec (draft : Draft) (kind : AggregateKind) (spec : String) :
    Except QueryError Draft := do
  let parts ← ColumnSpec.ofString spec
  match parts.outputAlias with
  | none => throw (.invalidPlan (.aliasMissing spec))
  | some outputAlias =>
    match parts.column, parts.qualifier with
    | .star, none =>
      if kind = .count then draft.aggregate .countAll [] outputAlias
      else throw (.invalidPlan (.wildcardNotCounted spec))
    | .star, some _ => throw (.invalidPlan (.wildcardNotCounted spec))
    | .named name, some scope => draft.aggregate kind [s!"{scope}.{name}"] outputAlias
    | .named name, none => draft.aggregate kind [name] outputAlias

/-- Orders the rows. -/
def orderBy (draft : Draft) (target : String) (direction : Direction) : Except QueryError Draft :=
  draft.extend (·.orderRows target direction)

/-- Cuts the result to a number of rows. -/
def withLimit (draft : Draft) (limit : UInt64) : Draft :=
  { draft with limit := some limit }

/-- Leaves out a number of rows at the start of the result. -/
def withOffset (draft : Draft) (offset : UInt64) : Draft :=
  { draft with offset := some offset }

/-- The plan of a draft. -/
def build (draft : Draft) : Except QueryError Plan :=
  match draft.body with
  | none => .error (.invalidPlan .noPrimaryTable)
  | some body => do
    let columns ← body.finalColumns
    if !body.aggregates.isEmpty && !columns.isEmpty && body.groupBy.isEmpty then
      throw (.invalidPlan .groupingNeeded)
    return {
      source := body.source
      columns := columns
      joins := body.joins
      predicates := body.predicates
      groupBy := body.groupBy
      aggregates := body.aggregates
      orderBy := body.orderBy
      limit := draft.limit
      offset := draft.offset }

end Draft

end TypedQuery
