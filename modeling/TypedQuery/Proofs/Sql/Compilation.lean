import TypedQuery.Proofs.Draft.Conditions
import TypedQuery.Proofs.Sql.Alignment

/-!
# Which plans compile

A draft takes a condition only with a value for each of its placeholders: one in the store's
language is counted as it comes, and the two that are made from a column have a single placeholder,
as the quotes around the names of the column hide whatever these names hold
(`Draft.Body.Takes.isBalanced`). So the values of a plan always go with its conditions, and the one
thing that can be wrong with a plan is that it selects nothing. That happens exactly where nothing
was chosen and the primary table has no column to fall back on (`Plan.compilation_of_build`).
-/

namespace TypedQuery

/-! ## Conditions are balanced -/

/-- A column as it is written has no placeholder, whatever its names hold. -/
theorem ColumnRef.placeholders_chars (ref : ColumnRef) : Text.placeholders ref.chars = [] := by
  unfold ColumnRef.chars
  have point : Text.placeholders ('.' :: Text.quotedName ref.column) = [] := by
    have dot : Text.IsClosed ['.'] := by decide
    rw [← List.singleton_append, Text.placeholders_append dot, Text.placeholders_quotedName]
    rfl
  rw [Text.placeholders_append (Text.isClosed_quotedName _), Text.placeholders_quotedName, point]
  rfl

/-- A text around a column has the placeholders that stand before and behind the column. -/
theorem ColumnRef.length_placeholders_around (ref : ColumnRef) {front : List Char}
    (closed : Text.IsClosed front) (back : List Char) :
    (Text.placeholders (front ++ ref.chars ++ back)).length =
      (Text.placeholders front).length + (Text.placeholders back).length := by
  rw [Text.placeholders_append (closed.append ref.isClosed_chars), Text.placeholders_append closed,
    ref.placeholders_chars, List.map_nil, List.append_nil, List.length_append, List.length_map]

/-- An equality has one placeholder and one value. -/
theorem Predicate.isBalanced_equality (ref : ColumnRef) (value : Value) :
    (equality ref value).placeholders = (equality ref value).params.length := by
  unfold Predicate.placeholders
  rw [← Text.length_placeholders, toList_text_equality, ← List.nil_append ref.chars,
    ref.length_placeholders_around Text.isClosed_nil]
  rfl

/-- A search has one placeholder and one value, the pattern. -/
theorem Predicate.isBalanced_search (ref : ColumnRef) (term : String) :
    (search ref term).placeholders = (search ref term).params.length := by
  have front : Text.IsClosed "LOWER(".toList := by decide
  unfold Predicate.placeholders
  rw [← Text.length_placeholders, toList_text_search, ref.length_placeholders_around front]
  rfl

/-- Every condition that a body takes has a value for each of its placeholders. -/
theorem Draft.Body.Takes.isBalanced {raw : String → Prop} {body : Body} {predicate : Predicate}
    (taken : body.Takes raw predicate) : predicate.placeholders = predicate.params.length := by
  cases taken with
  | raw fragment params given worded unnamed counted => exact counted
  | equality ref value resolved => exact Predicate.isBalanced_equality ref value
  | search ref term resolved => exact Predicate.isBalanced_search ref term

/-! ## The default selection -/

namespace Draft

/-- The columns that the steps of a draft have selected, before any are selected by default. -/
def columns (draft : Draft) : List SelectedColumn :=
  match draft.body with
  | some body => body.columns
  | none => []

namespace Body

variable {registry : Registry} {raw : String → Prop} {body : Body}

/-- The primary table of a grown body is the one that is registered under its name. -/
theorem table?_source (grown : body.Grown registry raw) :
    registry.table? body.source.table = some body.sourceTable := by
  have pairs := forall₂_scopes grown
  unfold tableScopes scopes at pairs
  rw [List.forall₂_cons] at pairs
  exact pairs.1.2

/-- A completed body without aggregates has no column exactly if none was selected and the primary
table has none. -/
theorem finalColumns_eq_nil_iff {columns : List SelectedColumn}
    (done : body.finalColumns = .ok columns) (plain : body.aggregates = []) :
    columns = [] ↔ body.columns = [] ∧ body.sourceTable.columns = [] := by
  unfold finalColumns at done
  rw [plain, List.isEmpty_nil, Bool.and_true] at done
  cases chosen : body.columns with
  | nil =>
    rw [chosen, List.isEmpty_nil, if_pos rfl] at done
    -- One column comes by default for each column of the primary table.
    have lengths := (forall₂_of_mapM done).length_eq
    rw [← List.length_eq_zero_iff, ← List.length_eq_zero_iff (l := body.sourceTable.columns),
      lengths]
    exact ⟨fun none => ⟨rfl, none⟩, fun none => none.2⟩
  | cons first rest =>
    rw [chosen, List.isEmpty_cons, if_neg Bool.false_ne_true, Except.ok.injEq] at done
    rw [← done]
    simp

end Body

end Draft

/-! ## Compilation -/

namespace Plan

/-- A plan whose values go with its conditions fails to compile exactly if its result has no
position, and for that reason. -/
theorem compile_eq_error_iff {plan : Plan} {e : QueryError}
    (balanced : ∀ predicate ∈ plan.predicates, predicate.placeholders = predicate.params.length) :
    plan.compile = .error e ↔ plan.outputColumns = [] ∧ e = .compile .nothingSelected := by
  by_cases empty : plan.outputColumns = []
  · have failed : plan.compile = .error (.compile .nothingSelected) := by
      unfold compile
      rw [bind_eq_ok_iff.2 ⟨balanced, rfl⟩, empty]
      rfl
    rw [failed, Except.error.injEq]
    exact ⟨fun same => ⟨empty, same.symm⟩, fun both => both.2.symm⟩
  · have compiled := compile_eq_ok_iff.2 ⟨balanced, empty, rfl⟩
    rw [compiled]
    constructor
    · intro failed
      cases failed
    · exact fun both => absurd both.1 empty

/-- What comes of the compilation of a plan that was built from a draft. -/
structure Compilation (registry : Registry) (steps : List Step) (draft : Draft) (plan : Plan) :
    Prop where
  /-- Each condition has as many values as placeholders. -/
  balanced : ∀ predicate ∈ plan.predicates,
    Text.placeholderCount predicate.text = predicate.params.length
  /-- The conditions are those that the steps ask for, in their order. -/
  declared : List.Forall₂ Step.Adds (steps.filter Step.isCondition) plan.predicates
  /-- Their values are bound in this order. -/
  bound : plan.bind = .ok (plan.predicates.flatMap (·.params))
  /-- The plan fails to compile exactly if it has no aggregate, no column was selected and its
  primary table has no column. -/
  fails : (∃ e, plan.compile = .error e) ↔ plan.aggregates = [] ∧ draft.columns = [] ∧
    ∃ table, registry.table? plan.source.table = some table ∧ table.columns = []
  /-- The error is that nothing is selected. -/
  cause : ∀ e, plan.compile = .error e →
    e = .compile .nothingSelected ∧ e.message = "Compile error: plan selects nothing"

/-- Every plan that steps lead to binds its values, and compiles unless it selects nothing. -/
theorem compilation_of_build {registry : Registry} {steps : List Step} {draft : Draft}
    {plan : Plan} (led : steps.foldlM Draft.apply (Draft.new registry) = .ok draft)
    (built : draft.build = .ok plan) : plan.Compilation registry steps draft := by
  have grown := Draft.isGrown_of_foldlM led
  obtain ⟨-, whole, grownWhole, same⟩ := Draft.grown_of_build grown built
  have balanced : ∀ predicate ∈ plan.predicates,
      predicate.placeholders = predicate.params.length := by
    intro predicate mem
    rw [same] at mem
    exact (Draft.Body.takes_of_mem_predicates grownWhole predicate mem).isBalanced
  refine ⟨balanced, forall₂_adds_predicates (Draft.finish_of_foldlM led built 0),
    bind_eq_ok_iff.2 ⟨balanced, rfl⟩, ?_, ?_⟩
  · -- The columns of the plan are those of the draft, or else the default ones.
    unfold Draft.build at built
    split at built
    · simp at built
    · next body found =>
      simp only [bind_eq_ok, guard_eq_ok, pure_eq_ok] at built
      obtain ⟨columns, completed, -, rfl⟩ := built
      have source := Draft.Body.table?_source (grown.body body found)
      have chosen : draft.columns = body.columns := by
        unfold Draft.columns
        rw [found]
      simp only [compile_eq_error_iff balanced, exists_and_left, exists_eq, and_true, outputColumns,
        List.append_eq_nil_iff, List.map_eq_nil_iff, source, Option.some.injEq, exists_eq_left',
        chosen]
      constructor
      · rintro ⟨none, plain⟩
        exact ⟨plain, (Draft.Body.finalColumns_eq_nil_iff completed plain).1 none⟩
      · rintro ⟨plain, none⟩
        exact ⟨(Draft.Body.finalColumns_eq_nil_iff completed plain).2 none, plain⟩
  · intro e failed
    obtain ⟨-, rfl⟩ := (compile_eq_error_iff balanced).1 failed
    exact ⟨rfl, rfl⟩

end Plan

namespace Office

/-- A registry with a table that has no column. -/
def voidRegistry : Registry where
  tables := [{ name := "void", columns := [] }]

/-- The table with all of its columns, a condition and a cut. -/
def voidSteps : List Step := [
  .selectFrom "void",
  .selectColumns ["*"],
  .whereRaw "'?' <> ?" [.text "x"],
  .limit 3]

/-- The draft that the steps lead to. -/
def voidDraft : Draft where
  registry := voidRegistry
  body := some {
    source := ⟨"void", none⟩
    sourceTable := { name := "void", columns := [] }
    predicates := [⟨"'?' <> ?", [.text "x"]⟩] }
  limit := some 3

/-- The plan that the draft is completed to. -/
def voidPlan : Plan where
  source := ⟨"void", none⟩
  columns := []
  joins := []
  predicates := [⟨"'?' <> ?", [.text "x"]⟩]
  groupBy := []
  aggregates := []
  orderBy := []
  limit := some 3
  offset := none

/-- A wildcard over no columns selects nothing, so the plan has its value and still no query. -/
theorem compilation_voidPlan :
    voidSteps.foldlM Draft.apply (Draft.new voidRegistry) = .ok voidDraft ∧
      voidDraft.build = .ok voidPlan ∧
      (∃ params, voidPlan.bind = .ok params ∧ params.length = 1) ∧
      voidPlan.compile = .error (.compile .nothingSelected) := by
  have led : voidSteps.foldlM Draft.apply (Draft.new voidRegistry) = .ok voidDraft := rfl
  have built : voidDraft.build = .ok voidPlan := rfl
  have compilation := Plan.compilation_of_build led built
  obtain ⟨e, failed⟩ := compilation.fails.2 ⟨rfl, rfl, _, rfl, rfl⟩
  refine ⟨led, built, ⟨_, compilation.bound, rfl⟩, ?_⟩
  rw [failed, (compilation.cause e failed).1]

end Office

end TypedQuery
