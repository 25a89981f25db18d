import TypedQuery.Proofs.Outcome
import TypedQuery.Proofs.Text.Scanning
import TypedQuery.Sql.Query

/-!
# The pieces of a query

A query has a head, which is what it selects and from which tables, a WHERE clause with the
conditions, and a tail with the groups, the order and the cut. Only the conditions are texts of the
caller. Every other piece is plain: a word of the language, a name in quotes or a number, each of
which ends outside quotes and has no placeholder (`isPlain_head`, `isPlain_tail`).

A compiled query is the text of the pieces with the values of all conditions one after another
(`Plan.compile_eq_ok_iff`).
-/

namespace TypedQuery

namespace Sql

/-- The text of a condition, if a piece is one. -/
def Piece.fragment? : Piece → Option String
  | .fragment text => some text
  | _ => none

/-- A piece that is no condition, ends outside quotes and has no placeholder. -/
def Piece.IsPlain (piece : Piece) : Prop :=
  piece.fragment? = none ∧ Text.IsClosed piece.chars ∧ Text.placeholders piece.chars = []

instance (piece : Piece) : Decidable piece.IsPlain :=
  inferInstanceAs (Decidable (_ ∧ _ ∧ _))

/-- A name is plain whatever characters it has. -/
theorem isPlain_name (name : String) : (Piece.name name).IsPlain :=
  ⟨rfl, Text.isClosed_quotedName name, Text.placeholders_quotedName name⟩

/-- A number is written in digits. -/
theorem isDigit_of_mem_number {n : UInt64} {c : Char} (mem : c ∈ (Piece.number n).chars) :
    c.isDigit :=
  Nat.isDigit_of_mem_toDigits (by decide) (by decide) mem

/-- A number is plain. -/
theorem isPlain_number (n : UInt64) : (Piece.number n).IsPlain := by
  refine ⟨rfl, Text.isClosed_of_forall fun c mem => ?_,
    Text.placeholders_eq_nil_of_forall fun c mem => ?_⟩
  · -- Digits are neither quote marks nor placeholders.
    by_contra mark
    simp only [Text.isQuoteMark, Bool.not_eq_false, Bool.or_eq_true, decide_eq_true_eq] at mark
    rcases mark with (rfl | rfl) | rfl <;> exact absurd (isDigit_of_mem_number mem) (by decide)
  · rintro rfl
    exact absurd (isDigit_of_mem_number mem) (by decide)

/-- What the pieces of all parts and the word between them have, all pieces have. -/
theorem forall_mem_separated {P : Piece → Prop} {word : String} {parts : List (List Piece)}
    (between : P (.word word)) (inside : ∀ pieces ∈ parts, ∀ piece ∈ pieces, P piece) :
    ∀ piece ∈ separated word parts, P piece := by
  fun_induction separated word parts with
  | case1 => simp
  | case2 pieces => exact inside pieces List.mem_cons_self
  | case3 pieces rest _ ih =>
    have first := inside pieces List.mem_cons_self
    have others := ih fun pieces mem => inside pieces (List.mem_cons_of_mem _ mem)
    simpa [or_imp, forall_and] using ⟨first, between, others⟩

/-- What the words and the parts of a clause have, all pieces of it have. -/
theorem forall_mem_clause {P : Piece → Prop} {word separator : String}
    {parts : List (List Piece)} (front : P (.word word)) (between : P (.word separator))
    (inside : ∀ pieces ∈ parts, ∀ piece ∈ pieces, P piece) :
    ∀ piece ∈ clause word separator parts, P piece := by
  unfold clause
  split
  · simp
  · exact List.forall_mem_cons.2 ⟨front, forall_mem_separated between inside⟩

/-- A column is plain. -/
theorem isPlain_column (ref : ColumnRef) : ∀ piece ∈ column ref, piece.IsPlain := by
  simp only [column, List.forall_mem_cons]
  exact ⟨isPlain_name _, by decide, isPlain_name _, by simp⟩

/-- A table is plain. -/
theorem isPlain_table (scope : TableScope) : ∀ piece ∈ table scope, piece.IsPlain := by
  unfold table
  split
  · simp only [List.forall_mem_cons]
    exact ⟨isPlain_name _, by decide, isPlain_name _, by simp⟩
  · simp [isPlain_name]

/-- A selected column is plain. -/
theorem isPlain_selected (column : SelectedColumn) :
    ∀ piece ∈ selected column, piece.IsPlain := by
  unfold selected
  split
  · simp only [List.forall_mem_append, List.forall_mem_cons]
    exact ⟨isPlain_column _, by decide, isPlain_name _, by simp⟩
  · exact isPlain_column _

/-- What an aggregate is computed from is plain. -/
theorem isPlain_argument (expr : Aggregate) : ∀ piece ∈ argument expr, piece.IsPlain := by
  have sources : ∀ pieces ∈ expr.sources.map column, ∀ piece ∈ pieces, piece.IsPlain := by
    intro pieces mem
    obtain ⟨ref, -, rfl⟩ := List.mem_map.1 mem
    exact isPlain_column ref
  unfold argument
  split
  · exact List.forall_mem_singleton.2 (by decide)
  · exact forall_mem_separated (by decide) sources
  · exact forall_mem_separated (by decide) sources

/-- An aggregate is plain. -/
theorem isPlain_aggregate (expr : Aggregate) : ∀ piece ∈ aggregate expr, piece.IsPlain := by
  have function : (Piece.word expr.kind.function).IsPlain := by cases expr.kind <;> decide
  simp only [aggregate, List.cons_append, List.forall_mem_cons, List.forall_mem_append]
  exact ⟨function, by decide, isPlain_argument expr, by decide, isPlain_name _, by simp⟩

/-- A join is plain. -/
theorem isPlain_join (clause : Join) : ∀ piece ∈ join clause, piece.IsPlain := by
  have word : (Piece.word (joinWord clause.kind)).IsPlain := by cases clause.kind <;> decide
  simp only [join, List.cons_append, List.append_assoc, List.forall_mem_cons,
    List.forall_mem_append]
  exact ⟨word, isPlain_table _, by decide, isPlain_column _, by decide, isPlain_column _⟩

/-- A term of the order is plain. -/
theorem isPlain_orderTerm (term : OrderTerm) : ∀ piece ∈ orderTerm term, piece.IsPlain := by
  have word : (Piece.word (directionWord term.direction)).IsPlain := by
    cases term.direction <;> decide
  unfold orderTerm
  split
  · simp only [List.forall_mem_append, List.forall_mem_cons]
    exact ⟨isPlain_column _, word, by simp⟩
  · simp only [List.forall_mem_cons]
    exact ⟨isPlain_name _, word, by simp⟩

/-- The cut of the result is plain. -/
theorem isPlain_window (limit offset : Option UInt64) :
    ∀ piece ∈ window limit offset, piece.IsPlain := by
  unfold window
  split
  · simp only [List.forall_mem_cons]
    exact ⟨by decide, isPlain_number _, by decide, isPlain_number _, by simp⟩
  · simp only [List.forall_mem_cons]
    exact ⟨by decide, isPlain_number _, by simp⟩
  · simp only [List.forall_mem_cons]
    exact ⟨by decide, isPlain_number _, by simp⟩
  · simp

end Sql

namespace Plan

/-- The pieces of a query in front of its conditions: what is selected, and the tables. -/
def headPieces (plan : Plan) : List Sql.Piece :=
  .word "SELECT " ::
    Sql.separated ", " (plan.columns.map Sql.selected ++ plan.aggregates.map Sql.aggregate) ++
    .word " FROM " :: Sql.table plan.source ++ plan.joins.flatMap Sql.join

/-- The conditions of a query. -/
def wherePieces (plan : Plan) : List Sql.Piece :=
  Sql.clause " WHERE " " AND " (plan.predicates.map Sql.condition)

/-- The pieces of a query behind its conditions: the groups, the order and the cut. -/
def tailPieces (plan : Plan) : List Sql.Piece :=
  Sql.clause " GROUP BY " ", " (plan.groupBy.map Sql.column) ++
    Sql.clause " ORDER BY " ", " (plan.orderBy.map Sql.orderTerm) ++
    Sql.window plan.limit plan.offset

/-- A query is its head, its conditions and its tail. -/
theorem pieces_eq (plan : Plan) :
    plan.pieces = plan.headPieces ++ plan.wherePieces ++ plan.tailPieces := by
  simp only [pieces, bodyPieces, headPieces, wherePieces, tailPieces, List.append_assoc,
    List.cons_append]

/-- The head of a query is plain. -/
theorem isPlain_head (plan : Plan) : ∀ piece ∈ plan.headPieces, piece.IsPlain := by
  have items : ∀ pieces ∈ plan.columns.map Sql.selected ++ plan.aggregates.map Sql.aggregate,
      ∀ piece ∈ pieces, piece.IsPlain := by
    simp only [List.forall_mem_append, List.forall_mem_map]
    exact ⟨fun column _ => Sql.isPlain_selected column,
      fun expr _ => Sql.isPlain_aggregate expr⟩
  have joins : ∀ piece ∈ plan.joins.flatMap Sql.join, piece.IsPlain := by
    intro piece mem
    obtain ⟨clause, -, mem⟩ := List.mem_flatMap.1 mem
    exact Sql.isPlain_join clause piece mem
  simp only [headPieces, List.cons_append, List.append_assoc, List.forall_mem_cons,
    List.forall_mem_append]
  exact ⟨by decide, Sql.forall_mem_separated (by decide) items, by decide, Sql.isPlain_table _,
    joins⟩

/-- The tail of a query is plain. -/
theorem isPlain_tail (plan : Plan) : ∀ piece ∈ plan.tailPieces, piece.IsPlain := by
  simp only [tailPieces, List.forall_mem_append]
  refine ⟨⟨Sql.forall_mem_clause (by decide) (by decide) ?_,
    Sql.forall_mem_clause (by decide) (by decide) ?_⟩, Sql.isPlain_window _ _⟩
  · exact List.forall_mem_map.2 fun ref _ => Sql.isPlain_column ref
  · exact List.forall_mem_map.2 fun term _ => Sql.isPlain_orderTerm term

/-! ## Compilation -/

/-- The values of conditions are bound one condition after another, exactly if each condition has a
value for each of its placeholders. -/
theorem foldlM_params_eq_ok {predicates : List Predicate} {start params : List Value} :
    predicates.foldlM (fun params predicate =>
        if predicate.isBalanced then Except.ok (params ++ predicate.params)
        else .error (QueryError.compile (.unbalanced predicate.text predicate.placeholders
          predicate.params.length))) start = .ok params ↔
      (∀ predicate ∈ predicates, predicate.placeholders = predicate.params.length) ∧
        params = start ++ predicates.flatMap (·.params) := by
  induction predicates generalizing start with
  | nil =>
    rw [List.foldlM_nil, pure_eq_ok, List.flatMap_nil, List.append_nil]
    simp [eq_comm]
  | cons predicate rest ih =>
    rw [List.foldlM_cons, bind_eq_ok, List.forall_mem_cons, List.flatMap_cons, ← List.append_assoc]
    -- The first condition whose values do not fit ends the binding.
    by_cases balanced : predicate.placeholders = predicate.params.length
    · have passed : predicate.isBalanced = true := by simpa [Predicate.isBalanced] using balanced
      simp only [passed, if_true, Except.ok.injEq, exists_eq_left', ih, balanced, true_and]
    · have refused : predicate.isBalanced = false := by simpa [Predicate.isBalanced] using balanced
      simp [refused, balanced]

/-- A plan has values for its query exactly if each of its conditions has one for each of its
placeholders. -/
theorem bind_eq_ok_iff {plan : Plan} {params : List Value} :
    plan.bind = .ok params ↔
      (∀ predicate ∈ plan.predicates, predicate.placeholders = predicate.params.length) ∧
        params = plan.predicates.flatMap (·.params) := by
  rw [Plan.bind, foldlM_params_eq_ok, List.nil_append]

/-- The query of a plan: the text of its pieces, the values of its conditions and the positions of
its result. -/
def query (plan : Plan) : CompiledQuery where
  sql := String.ofList (plan.pieces.flatMap Sql.Piece.chars)
  params := plan.predicates.flatMap (·.params)
  columns := plan.outputColumns

/-- The text of the query of a plan is the text of its pieces. -/
theorem toList_sql_query (plan : Plan) :
    plan.query.sql.toList = plan.pieces.flatMap Sql.Piece.chars :=
  String.toList_ofList

/-- A plan compiles to its query exactly if its values fit and its result has a position at
least. -/
theorem compile_eq_ok_iff {plan : Plan} {query : CompiledQuery} :
    plan.compile = .ok query ↔
      (∀ predicate ∈ plan.predicates, predicate.placeholders = predicate.params.length) ∧
        plan.outputColumns ≠ [] ∧ query = plan.query := by
  simp only [compile, bind_eq_ok, guard_eq_ok, pure_eq_ok, bind_eq_ok_iff, List.isEmpty_iff]
  constructor
  · rintro ⟨params, ⟨balanced, rfl⟩, selected, rfl⟩
    exact ⟨balanced, selected, rfl⟩
  · rintro ⟨balanced, selected, rfl⟩
    exact ⟨_, ⟨balanced, rfl⟩, selected, rfl⟩

end Plan

end TypedQuery
