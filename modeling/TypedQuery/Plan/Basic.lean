import TypedQuery.Plan.AggregateKind
import TypedQuery.Schema.Table
import TypedQuery.Text.Quoting
import TypedQuery.Value.Basic

/-!
# Plans

A plan is a retrieval with every name in it resolved: which tables it reads and under which names,
what it selects, on which conditions tables are joined and rows kept, how rows are grouped, ordered
and cut. Plans are made step by step by `Draft`, which checks each name against the registry.

The tables of a plan are its scopes: a table under its own name or under an alias. A column is
always referred to by its scope, so one table may take part twice.
-/

namespace TypedQuery

/-- A column of a scope of a plan, with what the registry says of it. -/
structure ColumnRef where
  scope : String
  table : String
  column : String
  dataType : DataType
  nullable : Bool
  deriving DecidableEq, Inhabited

/-- The scope and the name of a column with a point between. -/
def ColumnRef.qualifiedName (ref : ColumnRef) : String :=
  s!"{ref.scope}.{ref.column}"

/-- A table that takes part in a plan, under its own name or an alias. -/
structure TableScope where
  table : String
  scopeAlias : Option String
  deriving DecidableEq, Inhabited

/-- The name that the columns of a scope are qualified with. -/
def TableScope.name (scope : TableScope) : String :=
  scope.scopeAlias.getD scope.table

/-- A column in the result. -/
structure SelectedColumn where
  column : ColumnRef
  outputAlias : Option String
  deriving DecidableEq, Inhabited

/-- The name of a selected column in the result. -/
def SelectedColumn.outputName (selected : SelectedColumn) : String :=
  selected.outputAlias.getD selected.column.column

/-- What becomes of a row without a partner in the joined table: an inner join drops it, a left join
keeps it. -/
inductive JoinKind where
  | inner
  | left
  deriving DecidableEq, Inhabited

/-- A join with a table on the equality of two columns. -/
structure Join where
  kind : JoinKind
  target : TableScope
  left : ColumnRef
  right : ColumnRef
  deriving DecidableEq, Inhabited

/-- A condition on rows: text in the store's language, and the values of its placeholders from left
to right. -/
structure Predicate where
  text : String
  params : List Value
  deriving Inhabited

/-- The number of placeholders of a predicate. -/
def Predicate.placeholders (predicate : Predicate) : Nat :=
  Text.placeholderCount predicate.text

/-- Whether a predicate has a value for each placeholder and no other. -/
def Predicate.isBalanced (predicate : Predicate) : Bool :=
  predicate.placeholders = predicate.params.length

/-- An aggregate in the result, which is always named. -/
structure Aggregate where
  kind : AggregateKind
  sources : List ColumnRef
  outputAlias : String
  deriving DecidableEq, Inhabited

/-- What the result of an aggregate means. Counts are integers, averages and sums of products real
numbers, and the others take after the column that they are computed from. -/
def Aggregate.dataType (aggregate : Aggregate) : DataType :=
  match aggregate.kind with
  | .count | .countAll => .integer
  | .sumOfProduct | .avg => .real
  | .sum | .min | .max => (aggregate.sources.head?.map (·.dataType)).getD .real

/-- The direction of an order. -/
inductive Direction where
  | ascending
  | descending
  deriving DecidableEq, Inhabited

/-- What rows are ordered by: a column, or something selected under an alias. -/
inductive OrderTarget where
  | column (ref : ColumnRef)
  | outputAlias (name : String)
  deriving DecidableEq, Inhabited

/-- One term of an order. -/
structure OrderTerm where
  target : OrderTarget
  direction : Direction
  deriving DecidableEq, Inhabited

/-- The name and the meaning of one position of the result. -/
structure OutputColumn where
  name : String
  dataType : DataType
  deriving DecidableEq, Inhabited

/-- A retrieval with every name resolved. -/
structure Plan where
  source : TableScope
  columns : List SelectedColumn
  joins : List Join
  predicates : List Predicate
  groupBy : List ColumnRef
  aggregates : List Aggregate
  orderBy : List OrderTerm
  limit : Option UInt64
  offset : Option UInt64
  deriving Inhabited

namespace Plan

/-- The positions of the result: the selected columns, then the aggregates. -/
def outputColumns (plan : Plan) : List OutputColumn :=
  plan.columns.map (fun selected => ⟨selected.outputName, selected.column.dataType⟩) ++
    plan.aggregates.map fun aggregate => ⟨aggregate.outputAlias, aggregate.dataType⟩

/-- The plan cut to its first row; a plan without rows stays so. -/
def firstOnly (plan : Plan) : Plan :=
  { plan with limit := some (match plan.limit with | some limit => min limit 1 | none => 1) }

/-- The result has a position for each selected column and each aggregate. -/
theorem length_outputColumns (plan : Plan) :
    plan.outputColumns.length = plan.columns.length + plan.aggregates.length := by
  simp [outputColumns]

end Plan

end TypedQuery
