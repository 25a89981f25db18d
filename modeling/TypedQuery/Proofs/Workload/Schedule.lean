import TypedQuery.Proofs.Workload.Grouping

/-!
# The schedule of the workload

The workload is a list of stages. A stage has its queries from the start, or it reads the keys of a
table first and has its queries from these (`Stage`). Which queries the workload comes to therefore
depends on what the store answers, and is said by the log itself: the schedule of a log is that of
the keys that were read in it (`keysIn`).

A run goes through its schedule in order, up to the first query that fails (`Ends`). One stage does
(`Stage.exists_ends`), and by induction on the stages all of them do (`ends_forM_perform`): the keys
that a stage has read stay the ones of its table, as each table's keys are read once.
-/

namespace TypedQuery.Workload

/-! ## Parts of a run -/

section Run

variable {α β : Type}

/-- A part that goes on with the result of another one. -/
theorem run_bind (part : Run α) (rest : α → Run β) (progress : Progress) :
    (part >>= rest).run progress =
      match part.run progress with
      | (.ok a, progress) => (rest a).run progress
      | (.error e, progress) => (.error e, progress) := by
  have step (part : StateM Progress (Except QueryError α))
      (rest : Except QueryError α → StateM Progress (Except QueryError β)) :
      (part >>= rest) progress = rest (part progress).1 (part progress).2 := rfl
  rw [ExceptT.run_bind, step]
  rcases part.run progress with ⟨a | e, progress⟩ <;> rfl

/-- A step of the engine. -/
theorem run_onEngine (step : Engine → Except QueryError α × Engine) (progress : Progress) :
    (onEngine step).run progress =
      ((step progress.engine).1, { progress with engine := (step progress.engine).2 }) := rfl

/-- Parts that come to the same from any progress are the same. -/
theorem run_ext {part other : Run α} (same : ∀ progress, part.run progress = other.run progress) :
    part = other :=
  ExceptT.ext (funext same)

end Run

/-- Puts a query to the engine, and counts it if it has a name. -/
def Query.ask (registry : Registry) (query : Query) : Run Unit := do
  let rows ← onEngine (query.answer registry)
  match query.name? with
  | some name => count name rows.length
  | none => return ()

section Ask

variable {registry : Registry} {query : Query} {name : String}

/-- A query is counted when it has been answered, and ends the run when it fails. -/
theorem run_ask (progress : Progress) :
    (query.ask registry).run progress =
      match query.answer registry progress.engine with
      | (.ok rows, engine) => (.ok (), ⟨engine, Entry.record ⟨query, rows⟩ progress.stats⟩)
      | (.error e, engine) => (.error e, { progress with engine }) := by
  rw [Query.ask, run_bind, run_onEngine]
  rcases query.answer registry progress.engine with ⟨e | rows, engine⟩
  · rfl
  · simp only [Entry.record]
    cases query.name? <;> rfl

/-- Reading all rows of a query's plan. -/
theorem fetch_eq (registry : Registry) (query : Query) (whole : query.readsFirst = false)
    (counted : query.name? = some name) :
    fetch name (query.plan registry) = query.ask registry := by
  refine run_ext fun progress => ?_
  rw [run_ask, Query.answer]
  cases planned : query.plan registry with
  | error e => rfl
  | ok plan =>
    show (onEngine (·.fetchAll plan) >>= fun rows => count name rows.length).run progress = _
    rw [run_bind, run_onEngine]
    simp only [whole, Entry.record, counted]
    rcases progress.engine.fetchAll plan with ⟨e | rows, engine⟩ <;> rfl

/-- Reading the first row of a query's plan. -/
theorem fetchFirst_eq (registry : Registry) (query : Query) (first : query.readsFirst = true)
    (counted : query.name? = some name) :
    fetchFirst name (query.plan registry) = query.ask registry := by
  refine run_ext fun progress => ?_
  rw [run_ask, Query.answer]
  cases planned : query.plan registry with
  | error e => rfl
  | ok plan =>
    show (onEngine (·.executeOne plan) >>= fun row =>
      count name (if row.isSome then 1 else 0)).run progress = _
    rw [run_bind, run_onEngine]
    simp only [first, Entry.record, counted]
    rcases progress.engine.executeOne plan with ⟨e | _ | row, engine⟩ <;> rfl

/-- The keys that the rows of a table hold. -/
def keysOf (rows : List Row) : List Value :=
  rows.filterMap (·.get? "id")

/-- Reading the keys of a table. -/
theorem keys_eq (table : String) :
    keys registry table =
      (do return keysOf (← onEngine ((Query.keys table).answer registry))) := by
  refine run_ext fun progress => ?_
  rw [run_bind, run_onEngine, Query.answer, Query.plan, keys]
  cases planned : Shape.ids registry table with
  | error e => rfl
  | ok plan =>
    show (onEngine (·.fetchAll plan) >>= fun rows => pure (keysOf rows)).run progress = _
    rw [run_bind, run_onEngine]
    rfl

end Ask

/-! ## Stages -/

/-- A stage of the workload. -/
inductive Stage where
  /-- Queries that are there from the start. -/
  | each (queries : List Query)
  /-- Queries that the keys of a table lead to. -/
  | keyed (table : String) (queries : List Value → List Query)

namespace Stage

/-- The queries of a stage, if the keys of the tables are known. -/
def queries (known : String → List Value) : Stage → List Query
  | .each queries => queries
  | .keyed table queries => .keys table :: queries (known table)

/-- Runs a stage. -/
def perform (registry : Registry) : Stage → Run Unit
  | .each queries => queries.forM (·.ask registry)
  | .keyed table queries => do (queries (← keys registry table)).forM (·.ask registry)

end Stage

/-- The stages of the workload: five scans, then by table what its keys and the search terms lead
to. -/
def stages (terms : Terms) : List Stage :=
  [.each (scannedTables.map .fullScan),
   .keyed "customer" fun keys =>
     (keys.filterMap (·.text?)).map fun id => .byId "customer" (.text id),
   .each (terms.customers.map .customerSearch),
   .keyed "employee" fun keys => (keys.filterMap (·.int?)).map .employeeWithManager,
   .keyed "supplier" fun keys =>
     (keys.filterMap (·.int?)).map fun id => .byId "supplier" (.integer id),
   .keyed "product" fun keys => (keys.filterMap (·.int?)).map .productWithSupplier,
   .each (terms.products.map .productSearch),
   .each [.orderSummary],
   .keyed "order" fun keys => (keys.filterMap (·.int?)).map .orderDetails]

/-- The workload runs its stages in order. -/
theorem run_eq (registry : Registry) (terms : Terms) :
    run registry terms = (stages terms).forM (Stage.perform registry) := by
  have scan (table : String) :
      fetch s!"{table}: full scan" (Shape.fullScan registry table) =
        (Query.fullScan table).ask registry := fetch_eq registry (.fullScan table) rfl rfl
  have customer (id : String) :
      fetchFirst "customer: by id" (Shape.byId registry "customer" (.text id)) =
        (Query.byId "customer" (.text id)).ask registry :=
      fetchFirst_eq registry (.byId "customer" (.text id)) rfl rfl
  have customers (term : String) :
      fetch "customer: search" (Shape.customerSearch registry term) =
        (Query.customerSearch term).ask registry :=
      fetch_eq registry (.customerSearch term) rfl rfl
  have employee (id : Int64) :
      fetch "employee: with manager" (Shape.employeeWithManager registry id) =
        (Query.employeeWithManager id).ask registry :=
      fetch_eq registry (.employeeWithManager id) rfl rfl
  have supplier (id : Int64) :
      fetchFirst "supplier: by id" (Shape.byId registry "supplier" (.integer id)) =
        (Query.byId "supplier" (.integer id)).ask registry :=
      fetchFirst_eq registry (.byId "supplier" (.integer id)) rfl rfl
  have product (id : Int64) :
      fetch "product: with supplier" (Shape.productWithSupplier registry id) =
        (Query.productWithSupplier id).ask registry :=
      fetch_eq registry (.productWithSupplier id) rfl rfl
  have products (term : String) :
      fetch "product: search" (Shape.productSearch registry term) =
        (Query.productSearch term).ask registry :=
      fetch_eq registry (.productSearch term) rfl rfl
  have orders :
      fetch "order: summary" (Shape.orderSummary registry) =
        Query.orderSummary.ask registry :=
      fetch_eq registry .orderSummary rfl rfl
  have order (id : Int64) :
      fetch "order: details" (Shape.orderDetails registry id) =
        (Query.orderDetails id).ask registry :=
      fetch_eq registry (.orderDetails id) rfl rfl
  -- Nine loops and single queries, in the order of the stages.
  unfold run stages
  simp only [List.forM_eq_forM, List.forM_cons, List.forM_nil, List.forM_map, Stage.perform,
    textKeys, integerKeys, bind_assoc, pure_bind, bind_pure_unit, scan, customer, customers,
    employee, supplier, product, products, orders, order]

/-! ## Runs of stages -/

/-- How a run through queries in order may end: all of them were answered, or those in front of one
that failed. -/
inductive Ends (registry : Registry) (before : Progress) (queries : List Query)
    (log : List Entry) : Except QueryError Unit × Progress → Prop
  | whole {middle : Engine} : Answered registry before.engine log middle →
    queries = log.map (·.query) →
    Ends registry before queries log (.ok (), ⟨middle, recorded log before.stats⟩)
  | stopped {middle after : Engine} {failing : Query} {left : List Query} {e : QueryError} :
    Answered registry before.engine log middle →
    queries = log.map (·.query) ++ failing :: left →
    failing.answer registry middle = (.error e, after) →
    Ends registry before queries log (.error e, ⟨after, recorded log before.stats⟩)

section Runs

variable {registry : Registry} {before : Progress} {queries queries' : List Query}
  {log log' : List Entry} {outcome : Except QueryError Unit × Progress}

/-- A run behind queries that were all answered. -/
theorem Ends.append {middle : Engine} (answered : Answered registry before.engine log middle)
    (ends : Ends registry ⟨middle, recorded log before.stats⟩ queries' log' outcome) :
    Ends registry before (log.map (·.query) ++ queries') (log ++ log') outcome := by
  have stats : recorded log' (recorded log before.stats) = recorded (log ++ log') before.stats :=
    List.foldl_append.symm
  cases ends with
  | whole others same =>
    rw [stats]
    exact .whole (answered.append others) (by rw [same, List.map_append])
  | stopped others same failed =>
    rw [stats]
    exact .stopped (answered.append others) (by rw [same, List.map_append, List.append_assoc])
      failed

/-- A run that starts with a query that is answered. -/
theorem Ends.cons {query : Query} {rows : List Row} {next : Engine}
    (answered : query.answer registry before.engine = (.ok rows, next))
    (ends : Ends registry ⟨next, Entry.record ⟨query, rows⟩ before.stats⟩ queries log outcome) :
    Ends registry before (query :: queries) (⟨query, rows⟩ :: log) outcome := by
  have first : Answered registry before.engine [⟨query, rows⟩] next := .cons answered .nil
  exact Ends.append first ends

/-- Queries that are asked one after another end the run when one fails. -/
theorem ends_forM_ask (registry : Registry) (queries : List Query) (before : Progress) :
    ∃ log, Ends registry before queries log ((queries.forM (·.ask registry)).run before) := by
  induction queries generalizing before with
  | nil => exact ⟨[], .whole .nil rfl⟩
  | cons query queries ih =>
    rw [List.forM_eq_forM, List.forM_cons, run_bind, run_ask]
    rcases answered : query.answer registry before.engine with ⟨e | rows, next⟩
    · exact ⟨[], .stopped .nil rfl answered⟩
    · obtain ⟨log, ends⟩ := ih ⟨next, Entry.record ⟨query, rows⟩ before.stats⟩
      exact ⟨_, ends.cons answered⟩

end Runs

/-- The keys of a table as they were read in a log. -/
def keysIn (log : List Entry) (table : String) : List Value :=
  match log.find? (·.query.keyTable? = some table) with
  | some entry => keysOf entry.rows
  | none => []

section Keys

variable {log log' : List Entry} {table : String}

/-- Keys that have been read stay what they are. -/
theorem keysIn_append_left {entry : Entry} (mem : entry ∈ log)
    (read : entry.query.keyTable? = some table) :
    keysIn (log ++ log') table = keysIn log table := by
  have found : (log.find? (·.query.keyTable? = some table)).isSome = true := by
    rw [List.find?_isSome]
    exact ⟨entry, mem, by simpa using read⟩
  obtain ⟨first, found⟩ := Option.isSome_iff_exists.1 found
  simp only [keysIn, List.find?_append, found, Option.some_or]

/-- Keys that have not been read yet are what is read of them. -/
theorem keysIn_append_right (unread : ∀ entry ∈ log, entry.query.keyTable? ≠ some table) :
    keysIn (log ++ log') table = keysIn log' table := by
  have none : log.find? (·.query.keyTable? = some table) = none := by
    rw [List.find?_eq_none]
    simpa using unread
  simp only [keysIn, List.find?_append, none, Option.none_or]

end Keys

namespace Stage

/-- The table whose keys a stage reads. -/
def table? : Stage → Option String
  | .each _ => none
  | .keyed table _ => some table

/-- No query of a stage but its first one reads keys. -/
def Plain : Stage → Prop
  | .each queries => ∀ query ∈ queries, query.keyTable? = none
  | .keyed _ queries => ∀ keys, ∀ query ∈ queries keys, query.keyTable? = none

variable {registry : Registry} {stage : Stage} {known known' : String → List Value}

/-- The queries of a stage depend on the keys of its table alone. -/
theorem queries_congr (same : ∀ table, stage.table? = some table → known table = known' table) :
    stage.queries known = stage.queries known' := by
  cases stage with
  | each queries => rfl
  | keyed table queries => rw [Stage.queries, Stage.queries, same table rfl]

/-- A stage reads the keys of its table alone. -/
theorem Plain.table?_eq (plain : stage.Plain) {query : Query} (mem : query ∈ stage.queries known)
    {table : String} (reads : query.keyTable? = some table) : stage.table? = some table := by
  cases stage with
  | each queries =>
    rw [plain query mem] at reads
    simp at reads
  | keyed own queries =>
    rcases List.mem_cons.1 mem with rfl | mem
    · exact reads
    · rw [plain _ query mem] at reads
      simp at reads

/-- A stage reads the keys of its table. -/
theorem exists_mem_queries (known : String → List Value) {table : String}
    (own : stage.table? = some table) :
    ∃ query ∈ stage.queries known, query.keyTable? = some table := by
  cases stage with
  | each queries => simp [table?] at own
  | keyed _ queries => exact ⟨_, List.mem_cons_self, own⟩

/-- A stage goes through its queries, which are those of the keys that it reads. -/
theorem exists_ends (registry : Registry) (stage : Stage) (before : Progress) :
    ∃ log, Ends registry before (stage.queries (keysIn log)) log
      ((stage.perform registry).run before) := by
  cases stage with
  | each queries => exact ends_forM_ask registry queries before
  | keyed table queries =>
    rw [perform, keys_eq, bind_assoc, run_bind, run_onEngine]
    rcases answered : (Query.keys table).answer registry before.engine with ⟨e | rows, next⟩
    · exact ⟨[], .stopped .nil rfl answered⟩
    · -- What is read is not counted, and is at hand as the keys of the table.
      obtain ⟨log, ends⟩ := ends_forM_ask registry (queries (keysOf rows)) ⟨next, before.stats⟩
      have read : keysIn (⟨.keys table, rows⟩ :: log) table = keysOf rows := by
        simp [keysIn, Query.keyTable?]
      refine ⟨⟨.keys table, rows⟩ :: log, ?_⟩
      rw [Stage.queries, read]
      exact ends.cons answered

end Stage

/-- The stages of a workload go through their queries, which are those of the keys that are read on
the way, if no two stages read the keys of one table. -/
theorem ends_forM_perform {registry : Registry} {stages : List Stage}
    (plain : ∀ stage ∈ stages, stage.Plain) (distinct : (stages.filterMap (·.table?)).Nodup)
    (before : Progress) :
    ∃ log, Ends registry before (stages.flatMap (·.queries (keysIn log))) log
      ((stages.forM (·.perform registry)).run before) := by
  induction stages generalizing before with
  | nil => exact ⟨[], .whole .nil rfl⟩
  | cons stage stages ih =>
    obtain ⟨plainFirst, plainOthers⟩ := List.forall_mem_cons.1 plain
    rw [List.forM_eq_forM, List.forM_cons, run_bind]
    obtain ⟨log, ends⟩ := stage.exists_ends registry before
    generalize (stage.perform registry).run before = outcome at ends
    cases ends with
    | @stopped middle after failing left e answered same failed =>
      have whole : (stage :: stages).flatMap (·.queries (keysIn log)) =
          log.map (·.query) ++ failing :: (left ++ stages.flatMap (·.queries (keysIn log))) := by
        rw [List.flatMap_cons, same, List.append_assoc, List.cons_append]
      exact ⟨log, .stopped answered whole failed⟩
    | @whole middle answered same =>
      have distinctOthers : (stages.filterMap (·.table?)).Nodup :=
        distinct.sublist ((List.sublist_cons_self _ _).filterMap _)
      obtain ⟨log', ends⟩ := ih plainOthers distinctOthers ⟨middle, recorded log before.stats⟩
      refine ⟨log ++ log', ?_⟩
      -- The keys that the first stage has read are still the ones of its table.
      have first : stage.queries (keysIn (log ++ log')) = stage.queries (keysIn log) := by
        refine Stage.queries_congr fun table own => ?_
        obtain ⟨query, mem, reads⟩ := Stage.exists_mem_queries (keysIn log) own
        rw [same] at mem
        obtain ⟨entry, listed, rfl⟩ := List.mem_map.1 mem
        exact keysIn_append_left listed reads
      -- It has read none of another table.
      have others : stages.flatMap (·.queries (keysIn (log ++ log'))) =
          stages.flatMap (·.queries (keysIn log')) := by
        refine List.flatMap_congr fun other mem => Stage.queries_congr fun table own => ?_
        refine keysIn_append_right fun entry listed reads => ?_
        have asked : entry.query ∈ stage.queries (keysIn log) := by
          rw [same]
          exact List.mem_map_of_mem listed
        have twice := plainFirst.table?_eq asked reads
        rw [List.filterMap_cons_some twice, List.nodup_cons] at distinct
        exact distinct.1 (List.mem_filterMap.2 ⟨other, mem, own⟩)
      rw [List.flatMap_cons, first, others, same]
      exact ends.append answered

end TypedQuery.Workload
