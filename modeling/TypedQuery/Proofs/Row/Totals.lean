import TypedQuery.Proofs.Row.Conversion
import TypedQuery.Proofs.Row.Naming
import TypedQuery.Proofs.Sql.Compilation
import TypedQuery.Schema.TradingCompany

/-!
# Totals in rows

A sum takes after the column that it is computed from, so what the store gives for it is read as a
value of that column would be (`Aggregate.dataType`). A real total comes back as it is under any
type. An integral one comes back as a number where the column holds numbers or texts. Of truth
values and of dates, though, it is read as one of them: as the truth value that tells whether it is
zero, or as the date that it is a moment of. `Plan.total_of_ofSteps` says so for every sum of every
plan, whatever else the row holds, and `TradingCompany.not_isTotal_gonePlan` is a total that is
lost.
-/

namespace TypedQuery

/-- The values that stand for an integral total: the integer, or the real number nearest to it. -/
inductive Value.IsTotal (total : Int64) : Value → Prop
  | integer : IsTotal total (.integer total)
  | real : IsTotal total (.real total.toFloat)

/-- Whether an integral total of a column of some type is read as a number. A total of truth values
is not, and one of dates only if no day has it among its seconds. -/
def DataType.KeepsTotal (dataType : DataType) (total : Int64) : Prop :=
  dataType ≠ .boolean ∧ (dataType = .date →
    total.toInt < 86400 * Date.first.number ∨ 86400 * (Date.last.number + 1) ≤ total.toInt)

namespace Value

/-- A real number means itself under every type. -/
theorem convert_real (x : Float) (dataType : DataType) : (real x).convert dataType = .real x := by
  cases dataType <;> rfl

/-- An integral total that is kept is read as a number, and else as a truth value or as a date. -/
theorem convert_total (total : Int64) (dataType : DataType) :
    (dataType.KeepsTotal total ∧ ((integer total).convert dataType).IsTotal total) ∨
      (¬dataType.KeepsTotal total ∧ ((integer total).convert dataType = .boolean (total ≠ 0) ∨
        ∃ day, (integer total).convert dataType = .date day)) := by
  cases dataType with
  | text => exact .inl ⟨⟨by decide, by simp⟩, .integer⟩
  | integer => exact .inl ⟨⟨by decide, by simp⟩, .integer⟩
  | real => exact .inl ⟨⟨by decide, by simp⟩, convert_real_integer total ▸ .real⟩
  | boolean => exact .inr ⟨fun kept => kept.1 rfl, .inl (convert_boolean_integer total)⟩
  | date =>
    rw [convert_date_integer]
    cases found : Date.ofSeconds? total.toInt with
    | none => exact .inl ⟨⟨by decide, fun _ => Date.ofSeconds?_eq_none_iff.1 found⟩, .integer⟩
    | some day =>
      refine .inr ⟨fun kept => ?_, .inr ⟨day, rfl⟩⟩
      have none := Date.ofSeconds?_eq_none_iff.2 (kept.2 rfl)
      rw [found] at none
      cases none

/-- An integral total is read as a number just if it is kept. -/
theorem isTotal_convert_iff (total : Int64) (dataType : DataType) :
    ((integer total).convert dataType).IsTotal total ↔ dataType.KeepsTotal total := by
  rcases convert_total total dataType with ⟨kept, isTotal⟩ | ⟨lost, same | ⟨day, same⟩⟩
  · exact iff_of_true isTotal kept
  · rw [same]
    exact iff_of_false (fun isTotal => by cases isTotal) lost
  · rw [same]
    exact iff_of_false (fun isTotal => by cases isTotal) lost

end Value

namespace Plan

variable {plan : Plan}

/-- A plan that holds what a grown body holds compiles if it has an aggregate. -/
theorem compile_of_aggregate {registry : Registry} {raw : String → Prop} {body : Draft.Body}
    (grown : body.Grown registry raw) {limit offset : Option UInt64} {i : Nat}
    {aggregate : Aggregate} (listed : body.aggregates[i]? = some aggregate) :
    (body.toPlan limit offset).compile = .ok (body.toPlan limit offset).query := by
  refine compile_eq_ok_iff.2 ⟨?_, ?_, rfl⟩
  · exact fun predicate mem => (Draft.Body.takes_of_mem_predicates grown predicate mem).isBalanced
  · intro empty
    have position := @getElem?_outputColumns_of_aggregate (body.toPlan limit offset) _ _ listed
    rw [empty] at position
    cases position

/-- Every sum of a plan that steps lead to is of one column, the plan compiles, and whatever row the
store gives: a real total is found under the alias of the sum as it is, and an integral one as the
number just if the column's type keeps it. A total that is not kept is found as a truth value or as
a date. -/
theorem total_of_ofSteps {registry : Registry} {steps : List Step}
    (built : Plan.ofSteps registry steps = .ok plan) {i : Nat} {aggregate : Aggregate}
    (listed : plan.aggregates[i]? = some aggregate) (sums : aggregate.kind = .sum) :
    ∃ ref, aggregate.sources = [ref] ∧ plan.compile = .ok plan.query ∧ ∀ raw : RawRow,
      let row := Row.ofRaw plan.query.columns raw
      (∀ x, raw[plan.columns.length + i]? = some (.real x) →
        row.get? aggregate.outputAlias = some (.real x)) ∧
      ∀ total, raw[plan.columns.length + i]? = some (.integer total) →
        ∃ value, row.get? aggregate.outputAlias = some value ∧
          (value.IsTotal total ↔ ref.dataType.KeepsTotal total) ∧
          (¬ref.dataType.KeepsTotal total →
            value = .boolean (total ≠ 0) ∨ ∃ day, value = .date day) := by
  obtain ⟨-, body, limit, offset, grown, rfl⟩ := Plan.grown_of_ofSteps built
  have arity := Draft.Body.arity_aggregates grown aggregate (List.mem_of_getElem? listed)
  rw [sums] at arity
  obtain ⟨ref, sources⟩ := List.length_eq_one_iff.1 arity
  have typed : aggregate.dataType = ref.dataType := by
    unfold Aggregate.dataType
    rw [sums, sources]
    rfl
  refine ⟨ref, sources, compile_of_aggregate grown listed, fun raw => ⟨?_, ?_⟩⟩
  · intro x given
    rw [← Value.convert_real x aggregate.dataType]
    exact get?_outputAlias (Draft.Body.nodup_outputAlias grown) listed given
  · intro total given
    have found := get?_outputAlias (Draft.Body.nodup_outputAlias grown) listed given
    rw [typed] at found
    refine ⟨_, found, Value.isTotal_convert_iff total ref.dataType, fun lost => ?_⟩
    exact ((Value.convert_total total ref.dataType).resolve_left fun kept => lost kept.1).2

end Plan

/-- The least integer is found as the total that it is, next to a row's other values. -/
theorem Office.total_headPlan : Plan.ofSteps registry headSteps = .ok headPlan ∧
    headPlan.aggregates[1]? = some ⟨.sum, [staff "staff" "boss" .integer true], "total"⟩ ∧
    ∀ id boss name again heads : Value, ∃ value,
      (Row.ofRaw headPlan.query.columns
        [id, boss, name, again, heads, .integer Int64.minValue]).get? "total" = some value ∧
      value.IsTotal Int64.minValue := by
  have built : Plan.ofSteps registry headSteps = .ok headPlan := rfl
  refine ⟨built, rfl, fun id boss name again heads => ?_⟩
  obtain ⟨ref, sources, -, rows⟩ := Plan.total_of_ofSteps built (i := 1) rfl rfl
  obtain ⟨value, found, total, -⟩ :=
    (rows [id, boss, name, again, heads, .integer Int64.minValue]).2 _ rfl
  have same : staff "staff" "boss" .integer true = ref := List.head_eq_of_cons_eq sources
  exact ⟨value, found, total.2 (same ▸ ⟨by decide, by decide⟩)⟩

namespace TradingCompany

/-- The number of products that are gone, as the sum of their marks. -/
def gonePlan : Plan where
  source := ⟨"product", none⟩
  columns := []
  joins := []
  predicates := []
  groupBy := []
  aggregates := [⟨.sum, [⟨"product", "product", "discontinued", .boolean, false⟩], "gone"⟩]
  orderBy := []
  limit := none
  offset := none

/-- Five products that are gone are found to be true. -/
theorem not_isTotal_gonePlan :
    Plan.ofSteps registry
        [.selectFrom "product", .aggregateSpec .sum "discontinued as gone"] = .ok gonePlan ∧
      gonePlan.compile = .ok gonePlan.query ∧
      (Row.ofRaw gonePlan.query.columns [.integer 5]).get? "gone" = some (.boolean true) ∧
      ¬(Value.boolean true).IsTotal 5 :=
  ⟨rfl, Plan.compile_eq_ok_iff.2 ⟨by simp [gonePlan], List.cons_ne_nil _ _, rfl⟩, rfl,
    fun isTotal => by cases isTotal⟩

end TradingCompany

end TypedQuery
