import TypedQuery.Proofs.Draft.Scoping
import TypedQuery.Proofs.Row.Mapping
import TypedQuery.Proofs.Sql.Pieces

/-!
# Aggregates keep their names

Names of selected columns may repeat, and then the last of them is what a row has. The alias of an
aggregate is taken by nothing else in the result: a draft checks it against the columns and the
aggregates that are there when the aggregate comes, and against the aggregates when a column comes.
So whatever came first, a row has under the alias of an aggregate what the store computed for it
(`Plan.unshadowed_of_ofSteps`).
-/

namespace TypedQuery

namespace Draft.Body

variable {registry : Registry} {raw : String → Prop} {body : Body}

/-- No two aggregates of a grown body have one alias. -/
theorem nodup_outputAlias (grown : body.Grown registry raw) :
    (body.aggregates.map (·.outputAlias)).Nodup := by
  induction grown with
  | source scope table registered => exact List.nodup_nil
  | aggregate grown aggregate _ _ _ unique _ ih =>
    rw [List.map_append, List.nodup_append]
    refine ⟨ih, List.nodup_singleton _, ?_⟩
    intro name listed added last
    obtain ⟨other, mem, rfl⟩ := List.mem_map.1 listed
    rw [List.map_singleton, List.mem_singleton] at last
    rw [last]
    exact unique other mem
  | column _ _ _ _ ih => exact ih
  | join _ _ _ _ _ _ _ _ ih => exact ih
  | predicate _ _ _ ih => exact ih
  | group _ _ _ ih => exact ih
  | order _ _ _ ih => exact ih

/-- No selected column of a grown body has the alias of an aggregate for its name. -/
theorem outputName_ne_outputAlias (grown : body.Grown registry raw) :
    ∀ aggregate ∈ body.aggregates, ∀ selected ∈ body.columns,
      selected.outputName ≠ aggregate.outputAlias := by
  induction grown with
  | source scope table registered => simp
  -- Either of the two that comes later was checked against those that were there.
  | column grown selected _ free ih =>
    intro aggregate mem other listed
    rcases List.mem_append.1 listed with before | last
    · exact ih aggregate mem other before
    · rw [List.mem_singleton.1 last]
      exact (free aggregate mem).symm
  | aggregate grown aggregate _ _ _ _ free ih =>
    intro other listed selected mem
    rcases List.mem_append.1 listed with before | last
    · exact ih other before selected mem
    · rw [List.mem_singleton.1 last]
      exact free selected mem
  | join _ _ _ _ _ _ _ _ ih => exact ih
  | predicate _ _ _ ih => exact ih
  | group _ _ _ ih => exact ih
  | order _ _ _ ih => exact ih

end Draft.Body

namespace Plan

variable {plan : Plan}

/-! ## Positions of the result -/

/-- The first positions of the result are those of the selected columns. -/
theorem getElem?_outputColumns_of_column {k : Nat} {selected : SelectedColumn}
    (listed : plan.columns[k]? = some selected) :
    plan.outputColumns[k]? = some ⟨selected.outputName, selected.column.dataType⟩ := by
  obtain ⟨inside, -⟩ := List.getElem?_eq_some_iff.1 listed
  unfold outputColumns
  rw [List.getElem?_append_left (by rwa [List.length_map]), List.getElem?_map, listed,
    Option.map_some]

/-- The positions after them are those of the aggregates. -/
theorem getElem?_outputColumns_of_aggregate {i : Nat} {aggregate : Aggregate}
    (listed : plan.aggregates[i]? = some aggregate) :
    plan.outputColumns[plan.columns.length + i]? =
      some ⟨aggregate.outputAlias, aggregate.dataType⟩ := by
  unfold outputColumns
  rw [List.getElem?_append_right (by rw [List.length_map]; omega), List.length_map,
    Nat.add_sub_cancel_left, List.getElem?_map, listed, Option.map_some]

/-- A position of the result is that of a selected column or of an aggregate. -/
theorem getElem?_outputColumns_cases {j : Nat} {output : OutputColumn}
    (listed : plan.outputColumns[j]? = some output) :
    (∃ selected, plan.columns[j]? = some selected ∧ output.name = selected.outputName) ∨
      ∃ i aggregate, j = plan.columns.length + i ∧ plan.aggregates[i]? = some aggregate ∧
        output.name = aggregate.outputAlias := by
  unfold outputColumns at listed
  rw [List.getElem?_append, List.length_map] at listed
  split at listed
  · rw [List.getElem?_map, Option.map_eq_some_iff] at listed
    obtain ⟨selected, found, rfl⟩ := listed
    exact .inl ⟨selected, found, rfl⟩
  · next beyond =>
    rw [List.getElem?_map, Option.map_eq_some_iff] at listed
    obtain ⟨aggregate, found, rfl⟩ := listed
    exact .inr ⟨j - plan.columns.length, aggregate, by omega, found, rfl⟩

/-! ## Rows of the result -/

/-- What the rows of a plan's result have under its names, whatever the store gives. -/
structure Unshadowed (plan : Plan) : Prop where
  /-- No two aggregates have one alias. -/
  distinct : (plan.aggregates.map (·.outputAlias)).Nodup
  /-- No selected column has the alias of an aggregate for its name. -/
  apart : ∀ aggregate ∈ plan.aggregates, ∀ selected ∈ plan.columns,
    selected.outputName ≠ aggregate.outputAlias
  /-- Under the alias of the `i`-th aggregate a row has the value of its own position. -/
  aggregate : ∀ query raw, plan.compile = .ok query → raw.length = query.columns.length →
    ∀ (i : Nat) (aggregate : Aggregate), plan.aggregates[i]? = some aggregate →
      ∃ value : Value, raw[plan.columns.length + i]? = some value ∧
        (Row.ofRaw query.columns raw).get? aggregate.outputAlias =
          some (value.convert aggregate.dataType)
  /-- Under the name of a column a row has the value of the last column of that name. -/
  column : ∀ query raw, plan.compile = .ok query → raw.length = query.columns.length →
    ∀ (k : Nat) (selected : SelectedColumn), plan.columns[k]? = some selected →
      (∀ j : Nat, k < j → ∀ later : SelectedColumn, plan.columns[j]? = some later →
        later.outputName ≠ selected.outputName) →
      ∃ value : Value, raw[k]? = some value ∧
        (Row.ofRaw query.columns raw).get? selected.outputName =
          some (value.convert selected.column.dataType)

/-- A raw row with a value for each position of the result has one at a position of it. -/
theorem exists_value {query : CompiledQuery} {raw : RawRow} {k : Nat} {output : OutputColumn}
    (compiled : plan.compile = .ok query) (full : raw.length = query.columns.length)
    (listed : plan.outputColumns[k]? = some output) : ∃ value, raw[k]? = some value := by
  obtain ⟨-, -, rfl⟩ := compile_eq_ok_iff.1 compiled
  obtain ⟨inside, -⟩ := List.getElem?_eq_some_iff.1 listed
  have inside : k < raw.length := by
    rw [full]
    exact inside
  exact ⟨raw[k], List.getElem?_eq_getElem inside⟩

/-- A row has under the alias of an aggregate the value of its own position, if no two aggregates
have one alias. -/
theorem get?_outputAlias (distinct : (plan.aggregates.map (·.outputAlias)).Nodup) {i : Nat}
    {aggregate : Aggregate} (listed : plan.aggregates[i]? = some aggregate) {raw : RawRow}
    {value : Value} (given : raw[plan.columns.length + i]? = some value) :
    (Row.ofRaw plan.outputColumns raw).get? aggregate.outputAlias =
      some (value.convert aggregate.dataType) := by
  refine Row.get?_ofRaw_of_last (getElem?_outputColumns_of_aggregate listed) given ?_
  intro j later other there
  -- Only aggregates come after an aggregate, and each has an alias of its own.
  obtain ⟨selected, found, -⟩ | ⟨i', next, rfl, found, named⟩ :=
    getElem?_outputColumns_cases there
  · obtain ⟨inside, -⟩ := List.getElem?_eq_some_iff.1 found
    omega
  · obtain ⟨inside, -⟩ := List.getElem?_eq_some_iff.1 found
    have different := List.nodup_iff_getElem?_ne_getElem?.1 distinct i i' (by omega)
      (by rwa [List.length_map])
    rw [List.getElem?_map, List.getElem?_map, listed, found, Option.map_some, Option.map_some,
      ne_eq, Option.some.injEq] at different
    rw [named]
    exact Ne.symm different

/-- Names that are kept apart find their own values. -/
theorem unshadowed_of_apart (distinct : (plan.aggregates.map (·.outputAlias)).Nodup)
    (apart : ∀ aggregate ∈ plan.aggregates, ∀ selected ∈ plan.columns,
      selected.outputName ≠ aggregate.outputAlias) : plan.Unshadowed where
  distinct := distinct
  apart := apart
  aggregate := by
    intro query raw compiled full i aggregate listed
    obtain ⟨value, given⟩ :=
      exists_value compiled full (getElem?_outputColumns_of_aggregate listed)
    obtain ⟨-, -, rfl⟩ := compile_eq_ok_iff.1 compiled
    exact ⟨value, given, get?_outputAlias distinct listed given⟩
  column := by
    intro query raw compiled full k selected listed last
    have position := getElem?_outputColumns_of_column listed
    obtain ⟨value, given⟩ := exists_value compiled full position
    obtain ⟨-, -, rfl⟩ := compile_eq_ok_iff.1 compiled
    refine ⟨value, given, Row.get?_ofRaw_of_last position given fun j later other there => ?_⟩
    obtain ⟨next, found, named⟩ | ⟨i, aggregate, rfl, found, named⟩ :=
      getElem?_outputColumns_cases there
    · rw [named]
      exact last j later next found
    · rw [named]
      exact (apart aggregate (List.mem_of_getElem? found) selected
        (List.mem_of_getElem? listed)).symm

/-- Whatever steps lead to a plan, in whatever order columns and aggregates were chosen, no
aggregate is shadowed in the rows of its result. -/
theorem unshadowed_of_ofSteps {registry : Registry} {steps : List Step}
    (built : Plan.ofSteps registry steps = .ok plan) : plan.Unshadowed := by
  obtain ⟨-, body, limit, offset, grown, rfl⟩ := Plan.grown_of_ofSteps built
  exact unshadowed_of_apart (Draft.Body.nodup_outputAlias grown)
    (Draft.Body.outputName_ne_outputAlias grown)

end Plan

namespace Office

/-- An aggregate, a wildcard, a second column of a name that is there, and another aggregate. -/
def headSteps : List Step := [
  .selectFrom "staff",
  .aggregateSpec .count "* as heads",
  .selectColumns ["*", "boss as id"],
  .aggregateSpec .sum "boss as total",
  .groupBy ["id"]]

/-- The plan that the steps lead to. -/
def headPlan : Plan where
  source := ⟨"staff", none⟩
  columns := [
    ⟨staff "staff" "id" .integer false, none⟩,
    ⟨staff "staff" "boss" .integer true, none⟩,
    ⟨staff "staff" "name" .text true, none⟩,
    ⟨staff "staff" "boss" .integer true, some "id"⟩]
  joins := []
  predicates := []
  groupBy := [staff "staff" "id" .integer false]
  aggregates := [⟨.countAll, [], "heads"⟩, ⟨.sum, [staff "staff" "boss" .integer true], "total"⟩]
  orderBy := []
  limit := none
  offset := none

/-- A row of the plan has the later of two values under the name that repeats, and under each alias
what was computed for it. -/
theorem unshadowed_headPlan :
    Plan.ofSteps registry headSteps = .ok headPlan ∧ headPlan.compile = .ok headPlan.query ∧
      ∀ id boss name again heads total : Value,
        let row := Row.ofRaw headPlan.query.columns [id, boss, name, again, heads, total]
        row.get? "id" = some (again.convert .integer) ∧
          row.get? "heads" = some (heads.convert .integer) ∧
          row.get? "total" = some (total.convert .integer) := by
  have built : Plan.ofSteps registry headSteps = .ok headPlan := rfl
  have compiled : headPlan.compile = .ok headPlan.query :=
    Plan.compile_eq_ok_iff.2 ⟨by simp [headPlan], List.cons_ne_nil _ _, rfl⟩
  have unshadowed := Plan.unshadowed_of_ofSteps built
  refine ⟨built, compiled, fun id boss name again heads total => ⟨?_, ?_, ?_⟩⟩
  · obtain ⟨value, given, found⟩ := unshadowed.column _
      [id, boss, name, again, heads, total] compiled rfl 3 _ rfl
      (fun j later _ there => by
        have none : headPlan.columns[j]? = none := List.getElem?_eq_none later
        rw [none] at there
        cases there)
    rwa [← Option.some.inj given] at found
  · obtain ⟨value, given, found⟩ := unshadowed.aggregate _
      [id, boss, name, again, heads, total] compiled rfl 0 _ rfl
    rwa [← Option.some.inj given] at found
  · obtain ⟨value, given, found⟩ := unshadowed.aggregate _
      [id, boss, name, again, heads, total] compiled rfl 1 _ rfl
    rwa [← Option.some.inj given] at found

end Office

end TypedQuery
