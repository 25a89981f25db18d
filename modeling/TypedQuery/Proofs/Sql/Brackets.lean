import TypedQuery.Proofs.Sql.Pieces
import TypedQuery.Proofs.Text.Nesting

/-!
# Brackets in a query

The head of a query, which is what stands in front of its conditions, has brackets around what an
aggregate is computed from. It is self-contained, whatever characters the names in it have
(`Plan.selfContained_headChars`), so the first bracket that is open behind it is that of the
conditions.
-/

namespace TypedQuery

namespace Sql

/-- Self-contained pieces make a self-contained text. -/
theorem selfContained_flatMap {pieces : List Piece}
    (inside : ∀ piece ∈ pieces, Text.SelfContained piece.chars) :
    Text.SelfContained (pieces.flatMap Piece.chars) := by
  induction pieces with
  | nil => exact Text.selfContained_nil
  | cons piece rest ih =>
    obtain ⟨first, others⟩ := List.forall_mem_cons.1 inside
    rw [List.flatMap_cons]
    exact first.append (ih others)

/-- Self-contained parts with a self-contained word between two make a self-contained text. -/
theorem selfContained_separated {word : String} {parts : List (List Piece)}
    (between : Text.SelfContained word.toList)
    (inside : ∀ pieces ∈ parts, Text.SelfContained (pieces.flatMap Piece.chars)) :
    Text.SelfContained ((separated word parts).flatMap Piece.chars) := by
  fun_induction separated word parts with
  | case1 => exact Text.selfContained_nil
  | case2 pieces => exact inside pieces List.mem_cons_self
  | case3 pieces rest _ ih =>
    obtain ⟨first, others⟩ := List.forall_mem_cons.1 inside
    rw [List.flatMap_append, List.flatMap_cons]
    exact first.append (between.append (ih others))

/-- A column is self-contained. -/
theorem selfContained_column (ref : ColumnRef) :
    Text.SelfContained ((column ref).flatMap Piece.chars) := by
  refine selfContained_flatMap ?_
  simp only [column, List.forall_mem_cons]
  exact ⟨Text.selfContained_quotedName _, by decide, Text.selfContained_quotedName _, by simp⟩

/-- A table is self-contained. -/
theorem selfContained_table (scope : TableScope) :
    Text.SelfContained ((table scope).flatMap Piece.chars) := by
  refine selfContained_flatMap ?_
  unfold table
  split
  · simp only [List.forall_mem_cons]
    exact ⟨Text.selfContained_quotedName _, by decide, Text.selfContained_quotedName _, by simp⟩
  · simp [Piece.chars, Text.selfContained_quotedName]

/-- A selected column is self-contained. -/
theorem selfContained_selected (column : SelectedColumn) :
    Text.SelfContained ((selected column).flatMap Piece.chars) := by
  unfold selected
  split
  · rw [List.flatMap_append]
    refine (selfContained_column _).append (selfContained_flatMap ?_)
    simp only [List.forall_mem_cons]
    exact ⟨by decide, Text.selfContained_quotedName _, by simp⟩
  · exact selfContained_column _

/-- What an aggregate is computed from is self-contained. -/
theorem selfContained_argument (expr : Aggregate) :
    Text.SelfContained ((argument expr).flatMap Piece.chars) := by
  have sources : ∀ pieces ∈ expr.sources.map column,
      Text.SelfContained (pieces.flatMap Piece.chars) := by
    intro pieces mem
    obtain ⟨ref, -, rfl⟩ := List.mem_map.1 mem
    exact selfContained_column ref
  unfold argument
  split
  · decide
  · exact selfContained_separated (by decide) sources
  · exact selfContained_separated (by decide) sources

/-- An aggregate is self-contained: its brackets are around what it is computed from. -/
theorem selfContained_aggregate (expr : Aggregate) :
    Text.SelfContained ((aggregate expr).flatMap Piece.chars) := by
  -- Each bracket is in a piece of its own, so this cannot be shown piece by piece.
  have function : Text.SelfContained expr.kind.function.toList := by cases expr.kind <;> decide
  have word : Text.SelfContained " AS ".toList := by decide
  have name := Text.selfContained_quotedName expr.outputAlias
  have whole := function.append
    (((selfContained_argument expr).enclose).append (word.append name))
  simpa [aggregate, Piece.chars] using whole

/-- A join is self-contained. -/
theorem selfContained_join (clause : Join) :
    Text.SelfContained ((join clause).flatMap Piece.chars) := by
  have word : Text.SelfContained (joinWord clause.kind).toList := by cases clause.kind <;> decide
  have on : Text.SelfContained " ON ".toList := by decide
  have equals : Text.SelfContained " = ".toList := by decide
  have whole := word.append ((selfContained_table clause.target).append
    (on.append ((selfContained_column clause.left).append
      (equals.append (selfContained_column clause.right)))))
  simpa [join, Piece.chars] using whole

/-- A clause of self-contained parts is self-contained. -/
theorem selfContained_clause {word separator : String} {parts : List (List Piece)}
    (front : Text.SelfContained word.toList) (between : Text.SelfContained separator.toList)
    (inside : ∀ pieces ∈ parts, Text.SelfContained (pieces.flatMap Piece.chars)) :
    Text.SelfContained ((clause word separator parts).flatMap Piece.chars) := by
  unfold clause
  split
  · exact Text.selfContained_nil
  · rw [List.flatMap_cons]
    exact front.append (selfContained_separated between inside)

end Sql

namespace Plan

/-- The text of a query in front of its conditions. -/
def headChars (plan : Plan) : List Char :=
  plan.headPieces.flatMap Sql.Piece.chars

/-- The text of the conditions of a query. -/
def whereChars (plan : Plan) : List Char :=
  plan.wherePieces.flatMap Sql.Piece.chars

/-- The text of a query behind its conditions. -/
def tailChars (plan : Plan) : List Char :=
  plan.tailPieces.flatMap Sql.Piece.chars

/-- The head of a query is self-contained. -/
theorem selfContained_headChars (plan : Plan) : Text.SelfContained plan.headChars := by
  have items : ∀ pieces ∈ plan.columns.map Sql.selected ++ plan.aggregates.map Sql.aggregate,
      Text.SelfContained (pieces.flatMap Sql.Piece.chars) := by
    simp only [List.forall_mem_append, List.forall_mem_map]
    exact ⟨fun column _ => Sql.selfContained_selected column,
      fun expr _ => Sql.selfContained_aggregate expr⟩
  have joins : Text.SelfContained ((plan.joins.flatMap Sql.join).flatMap Sql.Piece.chars) := by
    induction plan.joins with
    | nil => exact Text.selfContained_nil
    | cons join joins ih =>
      rw [List.flatMap_cons, List.flatMap_append]
      exact (Sql.selfContained_join join).append ih
  have results := Sql.selfContained_separated (show Text.SelfContained ", ".toList by decide) items
  have select : Text.SelfContained "SELECT ".toList := by decide
  have tables : Text.SelfContained " FROM ".toList := by decide
  have whole := select.append (results.append
    (tables.append ((Sql.selfContained_table plan.source).append joins)))
  simpa [headChars, headPieces, Sql.Piece.chars] using whole

end Plan

end TypedQuery
