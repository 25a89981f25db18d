import Mathlib.Data.List.Forall2
import TypedQuery.Proofs.Engine.OwnConnection
import TypedQuery.Workload.Run

/-!
# The queries of the workload

A query of the workload as a value: which plan it has, what it is counted under, and how much of its
answer is read. The log of a run has an entry for each query that was answered. `Answered` says that
the queries of a log were put to an engine one after another, each to the engine that the one before
it has left, and that all were answered.
-/

namespace TypedQuery.Workload

/-- A query of the workload. -/
inductive Query where
  | fullScan (table : String)
  | keys (table : String)
  | byId (table : String) (id : Value)
  | customerSearch (term : String)
  | employeeWithManager (id : Int64)
  | productWithSupplier (id : Int64)
  | productSearch (term : String)
  | orderSummary
  | orderDetails (id : Int64)

namespace Query

/-- What a query is counted under. The queries that read keys are not counted. -/
def name? : Query → Option String
  | .fullScan table => some s!"{table}: full scan"
  | .keys _ => none
  | .byId table _ => some s!"{table}: by id"
  | .customerSearch _ => some "customer: search"
  | .employeeWithManager _ => some "employee: with manager"
  | .productWithSupplier _ => some "product: with supplier"
  | .productSearch _ => some "product: search"
  | .orderSummary => some "order: summary"
  | .orderDetails _ => some "order: details"

/-- The table whose keys are read. -/
def keyTable? : Query → Option String
  | .keys table => some table
  | .fullScan _ | .byId .. | .customerSearch _ | .employeeWithManager _ | .productWithSupplier _
  | .productSearch _ | .orderSummary | .orderDetails _ => none

/-- Whether only the first row is read. -/
def readsFirst : Query → Bool
  | .byId .. => true
  | .fullScan _ | .keys _ | .customerSearch _ | .employeeWithManager _ | .productWithSupplier _
  | .productSearch _ | .orderSummary | .orderDetails _ => false

/-- The plan of a query. -/
def plan (registry : Registry) : Query → Except QueryError Plan
  | .fullScan table => Shape.fullScan registry table
  | .keys table => Shape.ids registry table
  | .byId table id => Shape.byId registry table id
  | .customerSearch term => Shape.customerSearch registry term
  | .employeeWithManager id => Shape.employeeWithManager registry id
  | .productWithSupplier id => Shape.productWithSupplier registry id
  | .productSearch term => Shape.productSearch registry term
  | .orderSummary => Shape.orderSummary registry
  | .orderDetails id => Shape.orderDetails registry id

/-- The rows that are read of a query, and the engine after it. -/
def answer (registry : Registry) (query : Query) (engine : Engine) :
    Except QueryError (List Row) × Engine :=
  match query.plan registry with
  | .error e => (.error e, engine)
  | .ok plan =>
    if query.readsFirst then
      let (row, engine) := engine.executeOne plan
      (row.map Option.toList, engine)
    else engine.fetchAll plan

/-- The calls to the store that a query makes. -/
inductive Calls (registry : Registry) (query : Query) : List Call → Prop
  | unplanned {e : QueryError} : query.plan registry = .error e → Calls registry query []
  | planned {plan : Plan} {calls : List Call} : query.plan registry = .ok plan →
    (if query.readsFirst then plan.firstOnly else plan).Calls calls → Calls registry query calls

/-- A query makes its calls one after another, and has made no others when it is answered. -/
theorem exists_calls (registry : Registry) (query : Query) (engine : Engine) :
    ∃ calls, query.Calls registry calls ∧
      (query.answer registry engine).2.store.log = engine.store.log ++ calls := by
  unfold answer
  cases planned : query.plan registry with
  | error e => exact ⟨[], .unplanned planned, by rw [List.append_nil]⟩
  | ok plan =>
    by_cases first : query.readsFirst
    · obtain ⟨calls, called, logged⟩ := engine.exists_calls_executeOne plan
      refine ⟨calls, .planned planned (by rwa [if_pos first]), ?_⟩
      simp only [if_pos first]
      exact logged
    · obtain ⟨calls, called, logged⟩ := engine.exists_calls_fetchAll plan
      refine ⟨calls, .planned planned (by rwa [if_neg first]), ?_⟩
      simp only [if_neg first]
      exact logged

end Query

/-- A query that was answered, and the rows that were read of it. -/
structure Entry where
  query : Query
  rows : List Row

/-- The queries of a log are answered one after another. -/
inductive Answered (registry : Registry) : Engine → List Entry → Engine → Prop
  | nil {engine : Engine} : Answered registry engine [] engine
  | cons {query : Query} {engine next after : Engine} {rows : List Row} {log : List Entry} :
    query.answer registry engine = (.ok rows, next) → Answered registry next log after →
    Answered registry engine (⟨query, rows⟩ :: log) after

variable {registry : Registry} {engine middle after : Engine} {log log' : List Entry}

/-- What is answered behind a log makes it longer. -/
theorem Answered.append (one : Answered registry engine log middle)
    (other : Answered registry middle log' after) :
    Answered registry engine (log ++ log') after := by
  induction one with
  | nil => exact other
  | cons answered _ ih => exact .cons answered (ih other)

/-- The store has logged the calls of the queries in order, and no others. -/
theorem Answered.exists_calls (answered : Answered registry engine log after) :
    ∃ calls : List (List Call),
      List.Forall₂ (Query.Calls registry) (log.map (·.query)) calls ∧
        after.store.log = engine.store.log ++ calls.flatten := by
  induction answered with
  | nil => exact ⟨[], .nil, by simp⟩
  | @cons query engine next after rows log answered _ ih =>
    obtain ⟨first, called, logged⟩ := query.exists_calls registry engine
    obtain ⟨others, calls, more⟩ := ih
    rw [answered] at logged
    refine ⟨first :: others, .cons called calls, ?_⟩
    rw [more, logged, List.flatten_cons, List.append_assoc]

end TypedQuery.Workload
