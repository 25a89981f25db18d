import TypedQuery.Plan.Draft

/-!
# Queries in the store's language

The text of a plan. Its clauses have a fixed order: what is selected, the tables with their joins,
the conditions, the groups, the order and the cut. Every name is quoted and every column has its
scope in front, so no name can be taken for a word of the language and no two columns for each
other. The conditions stand in the order in which they were added, hence their values, one list
after another, are in the order of the placeholders.

A query is made as a list of pieces, each either a word of the language, a name, a condition or a
number, and only their texts are joined in the end.
-/

namespace TypedQuery

namespace Sql

/-- A piece of a query. -/
inductive Piece where
  /-- Words and marks of the language, with the blanks around them. -/
  | word (text : String)
  /-- A name, which is quoted. -/
  | name (name : String)
  /-- The text of a condition, as it is. -/
  | fragment (text : String)
  | number (n : UInt64)
  deriving DecidableEq

/-- The text of a piece. -/
def Piece.chars : Piece → List Char
  | .word text => text.toList
  | .name n => Text.quotedName n
  | .fragment text => text.toList
  | .number n => Nat.toDigits 10 n.toNat

/-- Lists of pieces one after another, with a word between two. -/
def separated (word : String) : List (List Piece) → List Piece
  | [] => []
  | [pieces] => pieces
  | pieces :: rest => pieces ++ .word word :: separated word rest

/-- A column with its scope. -/
def column (ref : ColumnRef) : List Piece :=
  [.name ref.scope, .word ".", .name ref.column]

/-- A table, with its alias if it has one. -/
def table (scope : TableScope) : List Piece :=
  match scope.scopeAlias with
  | some scopeAlias => [.name scope.table, .word " AS ", .name scopeAlias]
  | none => [.name scope.table]

/-- A selected column, with its alias if it has one. -/
def selected (selected : SelectedColumn) : List Piece :=
  match selected.outputAlias with
  | some outputAlias => column selected.column ++ [.word " AS ", .name outputAlias]
  | none => column selected.column

/-- What an aggregate is computed from. -/
def argument (aggregate : Aggregate) : List Piece :=
  match aggregate.kind with
  | .countAll => [.word "*"]
  | .sumOfProduct => separated " * " (aggregate.sources.map column)
  | _ => separated ", " (aggregate.sources.map column)

/-- An aggregate with its alias. -/
def aggregate (aggregate : Aggregate) : List Piece :=
  .word aggregate.kind.function :: .word "(" :: argument aggregate ++
    [.word ") AS ", .name aggregate.outputAlias]

/-- The words of a join. -/
def joinWord : JoinKind → String
  | .inner => " INNER JOIN "
  | .left => " LEFT JOIN "

/-- A join with its condition. -/
def join (join : Join) : List Piece :=
  .word (joinWord join.kind) :: table join.target ++ .word " ON " :: column join.left ++
    .word " = " :: column join.right

/-- A condition in brackets. -/
def condition (predicate : Predicate) : List Piece :=
  [.word "(", .fragment predicate.text, .word ")"]

/-- The words of a direction. -/
def directionWord : Direction → String
  | .ascending => " ASC"
  | .descending => " DESC"

/-- A term of the order. -/
def orderTerm (term : OrderTerm) : List Piece :=
  match term.target with
  | .column ref => column ref ++ [.word (directionWord term.direction)]
  | .outputAlias name => [.name name, .word (directionWord term.direction)]

/-- A clause, which is left out if it has no parts. -/
def clause (word separator : String) (parts : List (List Piece)) : List Piece :=
  if parts.isEmpty then [] else .word word :: separated separator parts

/-- The cut of the result. The language knows no offset without a limit, and takes the limit -1 for
none. -/
def window (limit offset : Option UInt64) : List Piece :=
  match limit, offset with
  | some limit, some offset => [.word " LIMIT ", .number limit, .word " OFFSET ", .number offset]
  | some limit, none => [.word " LIMIT ", .number limit]
  | none, some offset => [.word " LIMIT -1 OFFSET ", .number offset]
  | none, none => []

end Sql

namespace Plan

/-- The pieces of a plan's query up to its cut. -/
def bodyPieces (plan : Plan) : List Sql.Piece :=
  .word "SELECT " ::
    Sql.separated ", " (plan.columns.map Sql.selected ++ plan.aggregates.map Sql.aggregate) ++
    .word " FROM " :: Sql.table plan.source ++
    plan.joins.flatMap Sql.join ++
    Sql.clause " WHERE " " AND " (plan.predicates.map Sql.condition) ++
    Sql.clause " GROUP BY " ", " (plan.groupBy.map Sql.column) ++
    Sql.clause " ORDER BY " ", " (plan.orderBy.map Sql.orderTerm)

/-- The pieces of a plan's query. -/
def pieces (plan : Plan) : List Sql.Piece :=
  plan.bodyPieces ++ Sql.window plan.limit plan.offset

/-- The values of all conditions in the order of their placeholders. -/
def bind (plan : Plan) : Except QueryError (List Value) :=
  plan.predicates.foldlM (fun params predicate =>
    if predicate.isBalanced then .ok (params ++ predicate.params)
    else .error (.compile
      (.unbalanced predicate.text predicate.placeholders predicate.params.length))) []

end Plan

/-- A query for the store: its text, its values and the positions of its result. -/
structure CompiledQuery where
  sql : String
  params : List Value
  columns : List OutputColumn
  deriving Inhabited

/-- The query of a plan. -/
def Plan.compile (plan : Plan) : Except QueryError CompiledQuery := do
  let params ← plan.bind
  let columns := plan.outputColumns
  if columns.isEmpty then throw (.compile .nothingSelected)
  return ⟨String.ofList (plan.pieces.flatMap Sql.Piece.chars), params, columns⟩

end TypedQuery
