import TypedQuery.Engine.Basic
import TypedQuery.Workload.Shapes

/-!
# The workload

All query shapes one after another, over the keys that the store itself gives and the search terms
of a caller. The first query that fails ends it. What is kept of a query is a name and the number of
its rows; queries of one name are counted together, in the order in which the names first came up.
-/

namespace TypedQuery.Workload

/-- How often the queries of a name were run, and how many rows they gave. -/
structure Stats where
  name : String
  runs : Nat
  rows : Nat
  deriving DecidableEq

/-- The statistics with one more query. -/
def record (name : String) (rows : Nat) : List Stats → List Stats
  | [] => [⟨name, 1, rows⟩]
  | stats :: rest =>
    if stats.name = name then ⟨name, stats.runs + 1, stats.rows + rows⟩ :: rest
    else stats :: record name rows rest

/-- The engine and the statistics so far. -/
structure Progress where
  engine : Engine
  stats : List Stats := []

/-- A part of the workload, which goes on from the progress made before it or fails. -/
abbrev Run := ExceptT QueryError (StateM Progress)

/-- Takes a step of the engine. -/
def onEngine {α : Type} (step : Engine → Except QueryError α × Engine) : Run α := do
  let progress ← get
  let (result, engine) := step progress.engine
  set { progress with engine }
  result

/-- Counts a query. -/
def count (name : String) (rows : Nat) : Run Unit :=
  modify fun progress => { progress with stats := record name rows progress.stats }

/-- Reads all rows of a plan and counts them under a name. -/
def fetch (name : String) (plan : Except QueryError Plan) : Run Unit := do
  let plan ← plan
  let rows ← onEngine (·.fetchAll plan)
  count name rows.length

/-- Reads the first row of a plan and counts it under a name. -/
def fetchFirst (name : String) (plan : Except QueryError Plan) : Run Unit := do
  let plan ← plan
  let row ← onEngine (·.executeOne plan)
  count name (if row.isSome then 1 else 0)

/-- The keys of a table. -/
def keys (registry : Registry) (table : String) : Run (List Value) := do
  let plan ← Shape.ids registry table
  let rows ← onEngine (·.fetchAll plan)
  return rows.filterMap (·.get? "id")

/-- The keys of a table that are integers. -/
def integerKeys (registry : Registry) (table : String) : Run (List Int64) := do
  return (← keys registry table).filterMap (·.int?)

/-- The keys of a table that are texts. -/
def textKeys (registry : Registry) (table : String) : Run (List String) := do
  return (← keys registry table).filterMap (·.text?)

/-- The tables that are read as a whole, in this order. -/
def scannedTables : List String :=
  ["customer", "employee", "supplier", "product", "order"]

/-- What customers and products are searched for. -/
structure Terms where
  customers : List String
  products : List String

/-- The whole workload. -/
def run (registry : Registry) (terms : Terms) : Run Unit := do
  scannedTables.forM fun table => fetch s!"{table}: full scan" (Shape.fullScan registry table)
  (← textKeys registry "customer").forM fun id =>
    fetchFirst "customer: by id" (Shape.byId registry "customer" (.text id))
  terms.customers.forM fun term => fetch "customer: search" (Shape.customerSearch registry term)
  (← integerKeys registry "employee").forM fun id =>
    fetch "employee: with manager" (Shape.employeeWithManager registry id)
  (← integerKeys registry "supplier").forM fun id =>
    fetchFirst "supplier: by id" (Shape.byId registry "supplier" (.integer id))
  (← integerKeys registry "product").forM fun id =>
    fetch "product: with supplier" (Shape.productWithSupplier registry id)
  terms.products.forM fun term => fetch "product: search" (Shape.productSearch registry term)
  fetch "order: summary" (Shape.orderSummary registry)
  (← integerKeys registry "order").forM fun id =>
    fetch "order: details" (Shape.orderDetails registry id)

/-- The statistics of the whole workload, and the engine after it. -/
def statistics (registry : Registry) (terms : Terms) (engine : Engine) :
    Except QueryError (List Stats) × Engine :=
  match (run registry terms).run { engine } with
  | (.ok (), progress) => (.ok progress.stats, progress.engine)
  | (.error e, progress) => (.error e, progress.engine)

end TypedQuery.Workload
