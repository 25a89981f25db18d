import Mathlib.Data.List.Nodup
import TypedQuery.Proofs.Draft.Run

/-!
# Plans are well scoped

A plan names tables and columns only as its scopes know them. `Plan.WellScoped` says so in full: the
scopes have distinct names and registered tables, every reference anywhere in the plan is to a
column of one of its scopes and carries what the registry says of it, every join relates its target
to a scope before it, and the rows are ordered by aliases only that the result has.

The invariant behind it is on bodies. A body keeps for each of its scopes the table that the
registry has under the scope's table name (`Draft.Body.forall₂_scopes`), hence whatever the body
resolves is described by the registry.
-/

namespace TypedQuery

/-- The column that rows are ordered by, if it is not an alias. -/
def OrderTarget.column? : OrderTarget → Option ColumnRef
  | .column ref => some ref
  | .outputAlias _ => none

namespace Plan

/-- The scopes of a plan: its primary table, then the targets of its joins. -/
def scopes (plan : Plan) : List TableScope :=
  plan.source :: plan.joins.map (·.target)

/-- The references to columns anywhere in a plan: in the result, on both sides of the joins, in the
groups, in the aggregates and in the order. -/
def refs (plan : Plan) : List ColumnRef :=
  plan.columns.map (·.column) ++ plan.joins.flatMap (fun join => [join.left, join.right]) ++
    plan.groupBy ++ plan.aggregates.flatMap (·.sources) ++
    plan.orderBy.filterMap (·.target.column?)

end Plan

/-- A reference is to a scope and carries the scope's table, and the meaning of the first column of
its name in the table that is registered under the name of the scope's table. -/
structure ColumnRef.DescribedBy (registry : Registry) (scope : TableScope) (ref : ColumnRef) :
    Prop where
  scope_eq : ref.scope = scope.name
  table_eq : ref.table = scope.table
  column : ∃ table column, registry.table? scope.table = some table ∧
    table.column? ref.column = some column ∧ ref.dataType = column.dataType ∧
    ref.nullable = column.nullable

/-- A join relates its target to one of some earlier scopes: one side of its condition is in the
target, and the other side is in one of those. -/
structure Join.Relates (join : Join) (earlier : List TableScope) : Prop where
  one : ¬(join.left.scope = join.target.name ↔ join.right.scope = join.target.name)
  other : ∀ ref ∈ [join.left, join.right], ref.scope ≠ join.target.name →
    ∃ scope ∈ earlier, ref.scope = scope.name

/-- What a plan that is ready for the store keeps to. -/
structure Plan.WellScoped (registry : Registry) (plan : Plan) : Prop where
  /-- No two scopes have one name. -/
  distinct : (plan.scopes.map (·.name)).Nodup
  /-- The table of each scope is registered. -/
  registered : ∀ scope ∈ plan.scopes, ∃ table ∈ registry.tables, table.name = scope.table
  /-- Each reference is described by a scope of the plan. -/
  described : ∀ ref ∈ plan.refs, ∃ scope ∈ plan.scopes, ref.DescribedBy registry scope
  /-- Each join relates its target to the primary table or to the target of an earlier join. -/
  related : ∀ (k : Nat) (h : k < plan.joins.length),
    plan.joins[k].Relates (plan.scopes.take (k + 1))
  /-- An alias that rows are ordered by is one of an aggregate or of a selected column. -/
  ordered : ∀ term ∈ plan.orderBy, ∀ name, term.target = .outputAlias name →
    (∃ aggregate ∈ plan.aggregates, aggregate.outputAlias = name) ∨
      ∃ selected ∈ plan.columns, selected.outputAlias = some name
  /-- Each aggregate has as many columns as its kind takes. -/
  arity : ∀ aggregate ∈ plan.aggregates, aggregate.sources.length = aggregate.kind.arity
  /-- Aggregates go with plain columns only where rows are grouped. -/
  grouped : plan.aggregates ≠ [] → plan.columns ≠ [] → plan.groupBy ≠ []

namespace Draft.Body

/-- The scopes of the tables of a body, the primary table first. -/
def tableScopes (body : Body) : List TableScope :=
  body.source :: body.joins.map (·.target)

/-- The references to columns anywhere in a body. -/
def refs (body : Body) : List ColumnRef :=
  (body.toPlan none none).refs

variable {registry : Registry} {raw : String → Prop} {body : Body}

/-- The scopes of a grown body are those of its tables, each with the table that is registered under
its table name. -/
theorem forall₂_scopes (grown : body.Grown registry raw) :
    List.Forall₂ (fun scope entry => entry.1 = scope.name ∧
      registry.table? scope.table = some entry.2) body.tableScopes body.scopes := by
  induction grown with
  | source scope table registered => exact .cons ⟨rfl, registered⟩ .nil
  | join grown join table registered _ _ _ _ ih =>
    -- The join brings one scope on each side, the last.
    simp only [tableScopes, joining, List.map_append, List.map_cons, List.map_nil,
      ← List.cons_append]
    exact List.rel_append ih (.cons ⟨rfl, registered⟩ .nil)
  | column _ _ _ _ ih => exact ih
  | predicate _ _ _ ih => exact ih
  | group _ _ _ ih => exact ih
  | aggregate _ _ _ _ _ _ _ ih => exact ih
  | order _ _ _ ih => exact ih

/-- The names of the scopes of a grown body are those of its tables. -/
theorem map_fst_scopes (grown : body.Grown registry raw) :
    body.scopes.map (·.1) = body.tableScopes.map (·.name) := by
  have pairs := forall₂_scopes grown
  generalize body.tableScopes = scopes, body.scopes = entries at pairs
  induction pairs with
  | nil => rfl
  | cons first _ ih => rw [List.map_cons, List.map_cons, ih, first.1]

/-- No two scopes of a grown body have one name. -/
theorem nodup_scopes (grown : body.Grown registry raw) : (body.scopes.map (·.1)).Nodup := by
  induction grown with
  | source scope table registered => exact List.nodup_singleton _
  | join grown join table _ fresh _ _ _ ih =>
    rw [scopes_joining, List.map_append, List.nodup_append]
    refine ⟨ih, List.nodup_singleton _, ?_⟩
    -- The name of the target was checked to be new.
    intro name listed other last
    obtain ⟨entry, mem, rfl⟩ := List.mem_map.1 listed
    rw [List.mem_singleton.1 last]
    exact fresh entry mem
  | column _ _ _ _ ih => exact ih
  | predicate _ _ _ ih => exact ih
  | group _ _ _ ih => exact ih
  | aggregate _ _ _ _ _ _ _ ih => exact ih
  | order _ _ _ ih => exact ih

/-- Every reference of a grown body is one that it resolves. -/
theorem resolves_of_mem_refs (grown : body.Grown registry raw) :
    ∀ ref ∈ body.refs, body.Resolves ref := by
  induction grown with
  | source scope table registered => simp [refs, toPlan, Plan.refs]
  | @column body grown selected resolved _ ih =>
    intro ref listed
    have cases : ref = selected.column ∨ ref ∈ body.refs := by
      simpa [refs, toPlan, Plan.refs, or_assoc, or_left_comm] using listed
    rcases cases with rfl | listed
    · exact resolved
    · exact ih ref listed
  | @join body grown join table _ _ left right _ ih =>
    intro ref listed
    have cases : ref = join.left ∨ ref = join.right ∨ ref ∈ body.refs := by
      simpa [refs, toPlan, Plan.refs, joining, or_assoc, or_left_comm] using listed
    rcases cases with rfl | rfl | listed
    · exact left
    · exact right
    · exact (ih ref listed).joining join table
  | predicate _ _ _ ih => exact ih
  | @group body grown ref resolved ih =>
    intro other listed
    have cases : other = ref ∨ other ∈ body.refs := by
      simpa [refs, toPlan, Plan.refs, or_assoc, or_left_comm] using listed
    rcases cases with rfl | listed
    · exact resolved
    · exact ih other listed
  | @aggregate body grown aggregate _ _ resolved _ _ ih =>
    intro ref listed
    have cases : ref ∈ aggregate.sources ∨ ref ∈ body.refs := by
      simpa [refs, toPlan, Plan.refs, or_assoc, or_left_comm] using listed
    rcases cases with listed | listed
    · exact resolved ref listed
    · exact ih ref listed
  | @order body grown term ordered ih =>
    intro ref listed
    have cases : term.target.column? = some ref ∨ ref ∈ body.refs := by
      simpa [refs, toPlan, Plan.refs, or_assoc, or_left_comm, or_comm] using listed
    rcases cases with target | listed
    · -- The term is new. It refers to a column only if it is not by an alias.
      generalize term.target = aim at ordered target
      cases ordered with
      | outputAlias name selected => simp [OrderTarget.column?] at target
      | column other resolved =>
        rw [OrderTarget.column?, Option.some.injEq] at target
        exact target ▸ resolved
    · exact ih ref listed

/-- A scope that a body resolves a reference in is the scope of one of its tables. -/
theorem exists_tableScope_of_mem (grown : body.Grown registry raw) {name : String} {table : Table}
    (listed : (name, table) ∈ body.scopes) :
    ∃ scope ∈ body.tableScopes, name = scope.name ∧ registry.table? scope.table = some table :=
  exists_of_forall₂_of_mem (forall₂_scopes grown) listed

/-- What a grown body resolves is described by the registry. -/
theorem Resolves.exists_describedBy (grown : body.Grown registry raw) {ref : ColumnRef}
    (resolved : body.Resolves ref) :
    ∃ scope ∈ body.tableScopes, ref.DescribedBy registry scope := by
  obtain ⟨table, listed, made⟩ := resolved
  obtain ⟨scope, mem, named, registered⟩ := exists_tableScope_of_mem grown listed
  obtain ⟨column, found, same⟩ := Table.columnRef_eq_ok.1 made
  have tableName := (Registry.table?_eq_some registered).2
  -- What a reference carries was taken from the table that the registry has for the scope.
  refine ⟨scope, mem, named, ?_, table, column, registered, found, ?_, ?_⟩
  · rw [same, ← tableName]
  · rw [same]
  · rw [same]

/-- Each join of a grown body relates its target to a scope before it. -/
theorem relates_joins (grown : body.Grown registry raw) (k : Nat) (h : k < body.joins.length) :
    body.joins[k].Relates (body.tableScopes.take (k + 1)) := by
  induction grown with
  | source scope table registered => simp at h
  | @join body grown join table _ _ left right related ih =>
    simp only [joining, List.length_append, List.length_singleton] at h
    simp only [joining, tableScopes, List.take_succ_cons, List.map_append, List.map_singleton]
    rw [List.take_append_of_le_length (by simp; omega)]
    by_cases last : k < body.joins.length
    · rw [List.getElem_append_left last]
      exact ih last
    · -- The new join: a side that is not in its target was resolved before the target came.
      obtain rfl : k = body.joins.length := by omega
      rw [List.getElem_concat_length rfl]
      refine ⟨related, fun ref side outside => ?_⟩
      rw [← List.length_map, List.take_length]
      have resolved : (body.joining join table).Resolves ref := by
        simp only [List.mem_cons, List.not_mem_nil, or_false] at side
        rcases side with rfl | rfl
        · exact left
        · exact right
      obtain ⟨found, listed, -⟩ := resolved
      rw [scopes_joining, List.mem_append, List.mem_singleton, Prod.mk.injEq] at listed
      have before := listed.resolve_right fun new => outside new.1
      obtain ⟨scope, mem, named, -⟩ := exists_tableScope_of_mem grown before
      exact ⟨scope, mem, named⟩
  | column _ _ _ _ ih => exact ih h
  | predicate _ _ _ ih => exact ih h
  | group _ _ _ ih => exact ih h
  | aggregate _ _ _ _ _ _ _ ih => exact ih h
  | order _ _ _ ih => exact ih h

/-- An alias stays in the result when columns and aggregates are added. -/
theorem ordered_orderBy (grown : body.Grown registry raw) :
    ∀ term ∈ body.orderBy, ∀ name, term.target = .outputAlias name →
      (∃ aggregate ∈ body.aggregates, aggregate.outputAlias = name) ∨
        ∃ selected ∈ body.columns, selected.outputAlias = some name := by
  induction grown with
  | source scope table registered => simp
  | column _ selected _ _ ih =>
    intro term listed name aim
    rcases ih term listed name aim with here | ⟨other, mem, named⟩
    · exact .inl here
    · exact .inr ⟨other, List.mem_append_left _ mem, named⟩
  | aggregate _ aggregate _ _ _ _ _ ih =>
    intro term listed name aim
    rcases ih term listed name aim with ⟨other, mem, named⟩ | here
    · exact .inl ⟨other, List.mem_append_left _ mem, named⟩
    · exact .inr here
  | order _ term ordered ih =>
    intro other listed name aim
    rcases List.mem_append.1 listed with before | last
    · exact ih other before name aim
    · -- The alias of the new term was looked up in the result.
      rw [List.mem_singleton.1 last] at aim
      rw [aim] at ordered
      cases ordered with
      | outputAlias name selected => exact selected
  | join _ _ _ _ _ _ _ _ ih => exact ih
  | predicate _ _ _ ih => exact ih
  | group _ _ _ ih => exact ih

/-- Each aggregate of a grown body has the columns that its kind takes. -/
theorem arity_aggregates (grown : body.Grown registry raw) :
    ∀ aggregate ∈ body.aggregates, aggregate.sources.length = aggregate.kind.arity := by
  induction grown with
  | source scope table registered => simp
  | aggregate _ aggregate arity _ _ _ _ ih =>
    intro other listed
    rcases List.mem_append.1 listed with before | last
    · exact ih other before
    · exact List.mem_singleton.1 last ▸ arity
  | column _ _ _ _ ih => exact ih
  | join _ _ _ _ _ _ _ _ ih => exact ih
  | predicate _ _ _ ih => exact ih
  | group _ _ _ ih => exact ih
  | order _ _ _ ih => exact ih

/-- A plan that holds what a grown body holds is well scoped, if its columns, aggregates and groups
go together. -/
theorem wellScoped_toPlan (grown : body.Grown registry raw) {limit offset : Option UInt64}
    (grouped : body.aggregates ≠ [] → body.columns ≠ [] → body.groupBy ≠ []) :
    (body.toPlan limit offset).WellScoped registry where
  distinct := map_fst_scopes grown ▸ nodup_scopes grown
  registered := by
    intro scope listed
    obtain ⟨entry, -, -, found⟩ := exists_of_forall₂_of_mem (forall₂_scopes grown).flip listed
    obtain ⟨mem, named⟩ := Registry.table?_eq_some found
    exact ⟨entry.2, mem, named⟩
  described := fun ref listed =>
    (resolves_of_mem_refs grown ref listed).exists_describedBy grown
  related := relates_joins grown
  ordered := ordered_orderBy grown
  arity := arity_aggregates grown
  grouped := grouped

end Draft.Body

/-- Every plan that steps lead to is well scoped: an unqualified name, a wildcard, the default
selection and a join that looks at its own target never refer to anything but a column of a scope of
the plan, as it is registered. -/
theorem Plan.wellScoped_of_ofSteps {registry : Registry} {steps : List Step} {plan : Plan}
    (built : Plan.ofSteps registry steps = .ok plan) : plan.WellScoped registry := by
  obtain ⟨grouped, body, limit, offset, grown, rfl⟩ := Plan.grown_of_ofSteps built
  exact Draft.Body.wellScoped_toPlan grown grouped

namespace Office

/-- Two tables, the second with a name that has quotes and a question mark. -/
def registry : Registry where
  tables := [
    { name := "staff"
      columns := [⟨"id", .integer, false⟩, ⟨"boss", .integer, true⟩, ⟨"name", .text, true⟩] },
    { name := "a \"b\" (?)"
      columns := [⟨"person", .integer, false⟩, ⟨"note", .text, true⟩] }]

/-- A table joined with itself, a wildcard, unqualified names, conditions of all kinds, groups and
both kinds of order. -/
def steps : List Step := [
  .selectFrom "staff as e",
  .join .left ⟨"staff", some "b"⟩ "b.id" "e.boss",
  .join .inner ⟨"a \"b\" (?)", none⟩ "person" "e.id",
  .selectColumns ["b.*", "note as remark"],
  .whereRaw "(note = 'it''s (?' OR note = ?)" [.text "x"],
  .whereEq "e.id" (.integer 7),
  .whereContains "note" "A?",
  .aggregateSpec .count "* as n",
  .groupBy ["b.id", "note"],
  .orderBy "n" .descending,
  .orderBy "e.name" .ascending,
  .limit 5]

/-- A column of the staff in a scope. -/
def staff (scope column : String) (dataType : DataType) (nullable : Bool) : ColumnRef :=
  ⟨scope, "staff", column, dataType, nullable⟩

/-- A column of the second table. -/
def notes (column : String) (dataType : DataType) (nullable : Bool) : ColumnRef :=
  ⟨"a \"b\" (?)", "a \"b\" (?)", column, dataType, nullable⟩

/-- The plan that the steps lead to. -/
def plan : Plan where
  source := ⟨"staff", some "e"⟩
  columns := [
    ⟨staff "b" "id" .integer false, none⟩,
    ⟨staff "b" "boss" .integer true, none⟩,
    ⟨staff "b" "name" .text true, none⟩,
    ⟨notes "note" .text true, some "remark"⟩]
  joins := [
    ⟨.left, ⟨"staff", some "b"⟩, staff "b" "id" .integer false, staff "e" "boss" .integer true⟩,
    ⟨.inner, ⟨"a \"b\" (?)", none⟩, notes "person" .integer false, staff "e" "id" .integer false⟩]
  predicates := [
    ⟨"(note = 'it''s (?' OR note = ?)", [.text "x"]⟩,
    ⟨"\"e\".\"id\" = ?", [.integer 7]⟩,
    ⟨"LOWER(\"a \"\"b\"\" (?)\".\"note\") LIKE ? ESCAPE '\\'", [.text "%a?%"]⟩]
  groupBy := [staff "b" "id" .integer false, notes "note" .text true]
  aggregates := [⟨.countAll, [], "n"⟩]
  orderBy := [
    ⟨.outputAlias "n", .descending⟩,
    ⟨.column (staff "e" "name" .text true), .ascending⟩]
  limit := some 5
  offset := none

/-- The steps lead to a plan, which is well scoped. -/
theorem wellScoped_plan : Plan.ofSteps registry steps = .ok plan ∧ plan.WellScoped registry := by
  have built : Plan.ofSteps registry steps = .ok plan := rfl
  exact ⟨built, Plan.wellScoped_of_ofSteps built⟩

end Office

end TypedQuery
