import TypedQuery.Database.Catalog
import TypedQuery.Proofs.Draft.Resolution
import TypedQuery.Schema.TradingCompany
import TypedQuery.Sql.Query

/-!
# What the store takes a column for

The store takes two names for one if only the case of ASCII letters tells them apart, in quotes or
not. To it a column with a scope in front denotes every table of the FROM clause that goes by the
name of the scope and has a column of the name (`Plan.denoted`), and a query in which these are
several is refused as ambiguous. Its tables are taken to be the registered ones.

A plan knows its scopes apart by the letter. So a reference denotes the scope that it was resolved
in, and no other unless that one differs in case alone and has such a column as well
(`Plan.denotes_of_ofSteps`). Where no two scopes differ in case alone nothing is ambiguous
(`Plan.Denotes.eq_singleton`). But a join does not refuse a scope whose name differs from
that of another in case alone (`TradingCompany.denoted_twinPlan`).
-/

namespace TypedQuery

open Database (sameName)

/-- Whether the store finds a column of a name in the table of a scope. -/
def TableScope.hasColumn (registry : Registry) (scope : TableScope) (name : String) : Bool :=
  (registry.table? scope.table).any fun table => table.columns.any (sameName ·.name name)

/-- The scopes of a plan that a reference denotes to the store. -/
def Plan.denoted (registry : Registry) (plan : Plan) (ref : ColumnRef) : List TableScope :=
  plan.scopes.filter fun scope =>
    sameName scope.name ref.scope && scope.hasColumn registry ref.column

/-- A reference denotes the scope that it was resolved in. It denotes no other just if no other
scope goes by its name to the store and has a column of the name. -/
def Plan.Denotes (registry : Registry) (plan : Plan) (ref : ColumnRef) : Prop :=
  ∃ scope ∈ plan.scopes, ref.DescribedBy registry scope ∧ scope ∈ plan.denoted registry ref ∧
    (plan.denoted registry ref = [scope] ↔
      ∀ other ∈ plan.scopes, sameName other.name scope.name = true →
        other.hasColumn registry ref.column = true → other = scope)

/-- The conditions on a column. -/
inductive Predicate.IsOn (ref : ColumnRef) : Predicate → Prop
  | equality (value : Value) : IsOn ref (.equality ref value)
  | search (term : String) : IsOn ref (.search ref term)

/-! ## Names -/

/-- Two names are one to the store just if they have the same letters once their ASCII capitals are
made small. -/
theorem sameName_iff {a b : String} :
    sameName a b = true ↔ a.toList.map Char.toLower = b.toList.map Char.toLower := by
  have letters (name : String) : name.toLower.toList = name.toList.map Char.toLower :=
    String.toList_map
  rw [sameName, decide_eq_true_eq, ← String.toList_inj, letters, letters]

/-- A name is one name to the store as well. -/
theorem sameName_of_eq {a b : String} (same : a = b) : sameName a b = true := by
  rw [sameName_iff, same]

/-! ## What references denote -/

namespace Plan

variable {registry : Registry} {plan : Plan} {ref : ColumnRef} {scope : TableScope}

/-- The store finds a column that the registry has under the name. -/
theorem hasColumn_of_column? {table : Table} {name : String} {column : Column}
    (registered : registry.table? scope.table = some table)
    (found : table.column? name = some column) : scope.hasColumn registry name = true := by
  obtain ⟨listed, named⟩ := Table.column?_eq_some found
  rw [TableScope.hasColumn, registered, Option.any_some, List.any_eq_true]
  exact ⟨column, listed, sameName_of_eq named⟩

/-- A reference denotes the scope that it was resolved in. -/
theorem mem_denoted (listed : scope ∈ plan.scopes) (described : ref.DescribedBy registry scope) :
    scope ∈ plan.denoted registry ref := by
  obtain ⟨table, column, registered, found, -, -⟩ := described.column
  rw [denoted, List.mem_filter, sameName_of_eq described.scope_eq.symm,
    hasColumn_of_column? registered found]
  exact ⟨listed, rfl⟩

/-- A reference to a scope of a plan denotes it. -/
theorem denotes_of_describedBy (nodup : (plan.scopes.map (·.name)).Nodup)
    (listed : scope ∈ plan.scopes) (described : ref.DescribedBy registry scope) :
    plan.Denotes registry ref := by
  refine ⟨scope, listed, described, mem_denoted listed described, ?_⟩
  rw [denoted, filter_eq_singleton_iff nodup.of_map (mem_denoted listed described),
    described.scope_eq]
  simp only [Bool.and_eq_true, and_imp]

/-- Every reference of a plan denotes its scope: the references of the plan, and those of the
conditions that steps have put on columns. The other conditions are as steps have given them. -/
theorem denotes_of_ofSteps {steps : List Step} (built : Plan.ofSteps registry steps = .ok plan) :
    (plan.scopes.map (·.name)).Nodup ∧ (∀ ref ∈ plan.refs, plan.Denotes registry ref) ∧
      ∀ predicate ∈ plan.predicates, (∃ params, Step.whereRaw predicate.text params ∈ steps) ∨
        ∃ ref, predicate.IsOn ref ∧ plan.Denotes registry ref := by
  obtain ⟨grouped, body, limit, offset, grown, rfl⟩ := Plan.grown_of_ofSteps built
  obtain ⟨distinct, -, described, -⟩ := Draft.Body.wellScoped_toPlan grown grouped
  have resolves {ref : ColumnRef} (resolved : body.Resolves ref) :
      (body.toPlan limit offset).Denotes registry ref := by
    obtain ⟨scope, listed, own⟩ := resolved.exists_describedBy grown
    exact denotes_of_describedBy distinct listed own
  refine ⟨distinct, ?_, ?_⟩
  · intro ref listed
    obtain ⟨scope, mem, own⟩ := described ref listed
    exact denotes_of_describedBy distinct mem own
  · intro predicate mem
    cases Draft.Body.takes_of_mem_predicates grown predicate mem with
    | raw fragment params given _ _ _ => exact .inl given
    | equality ref value resolved => exact .inr ⟨ref, .equality value, resolves resolved⟩
    | search ref term resolved => exact .inr ⟨ref, .search term, resolves resolved⟩

/-- Where no two scopes of a plan differ in case alone, a reference denotes its scope and no
other. -/
theorem Denotes.eq_singleton (denotes : plan.Denotes registry ref)
    (apart : (plan.scopes.map (·.name.toLower)).Nodup) :
    ∃ scope ∈ plan.scopes, ref.DescribedBy registry scope ∧
      plan.denoted registry ref = [scope] := by
  obtain ⟨scope, listed, described, -, sole⟩ := denotes
  refine ⟨scope, listed, described, sole.2 ?_⟩
  intro other mem same _
  exact List.inj_on_of_nodup_map apart mem listed (of_decide_eq_true same)

end Plan

/-- The references of the plan of the office denote their scopes. -/
theorem Office.denotes_plan : Plan.ofSteps registry steps = .ok plan ∧
    (plan.scopes.map (·.name)).Nodup ∧ ∀ ref ∈ plan.refs, plan.Denotes registry ref := by
  have built : Plan.ofSteps registry steps = .ok plan := rfl
  obtain ⟨distinct, denotes, -⟩ := Plan.denotes_of_ofSteps built
  exact ⟨built, distinct, denotes⟩

namespace TradingCompany

/-! ## Scopes that differ in case alone -/

/-- A column of an employee in a scope. -/
def employeeRef (scope column : String) (nullable : Bool) : ColumnRef :=
  ⟨scope, "employee", column, .integer, nullable⟩

/-- The plan of the employees with their managers, under two names that differ in case alone. -/
def twinPlan : Plan where
  source := ⟨"employee", some "e"⟩
  columns := [⟨employeeRef "e" "id" false, none⟩]
  joins := [⟨.left, ⟨"employee", some "E"⟩, employeeRef "e" "reports_to" true,
    employeeRef "E" "id" false⟩]
  predicates := []
  groupBy := []
  aggregates := []
  orderBy := []
  limit := none
  offset := none

/-- A join does not refuse a scope whose name differs from that of another in case alone. The query
is compiled, and every reference in it denotes both scopes. -/
theorem denoted_twinPlan : Plan.ofSteps registry [
      .selectFrom "employee as e",
      .join .left ⟨"employee", some "E"⟩ "e.reports_to" "E.id",
      .selectColumns ["e.id"]] = .ok twinPlan ∧
    (∃ query, twinPlan.compile = .ok query) ∧
    twinPlan.scopes.map (·.name) = ["e", "E"] ∧ sameName "e" "E" = true ∧
    ∀ ref ∈ twinPlan.refs, twinPlan.denoted registry ref = twinPlan.scopes := by
  -- Both scopes are the table of employees, so both go by either name and have every column.
  have both {scope name : String} {column : Column}
      (twins : sameName "e" scope = true ∧ sameName "E" scope = true)
      (found : employee.column? name = some column) {nullable : Bool} :
      twinPlan.denoted registry (employeeRef scope name nullable) = twinPlan.scopes := by
    have own (scopeAlias : Option String) :
        TableScope.hasColumn registry ⟨"employee", scopeAlias⟩ name = true :=
      Plan.hasColumn_of_column? rfl found
    rw [Plan.denoted, List.filter_eq_self]
    intro scope listed
    rcases List.mem_pair.1 listed with rfl | rfl
    · exact Bool.and_eq_true_iff.2 ⟨twins.1, own _⟩
    · exact Bool.and_eq_true_iff.2 ⟨twins.2, own _⟩
  have small : sameName "e" "e" = true ∧ sameName "E" "e" = true :=
    ⟨sameName_of_eq rfl, sameName_iff.2 (by decide)⟩
  have capital : sameName "e" "E" = true ∧ sameName "E" "E" = true :=
    ⟨sameName_iff.2 (by decide), sameName_of_eq rfl⟩
  refine ⟨rfl, ⟨_, rfl⟩, rfl, capital.1, ?_⟩
  intro ref listed
  have cases : ref = employeeRef "e" "id" false ∨ ref = employeeRef "e" "reports_to" true ∨
      ref = employeeRef "E" "id" false := by
    simpa [Plan.refs, twinPlan] using listed
  rcases cases with rfl | rfl | rfl
  · exact both small rfl
  · exact both small rfl
  · exact both capital rfl

end TradingCompany

end TypedQuery
