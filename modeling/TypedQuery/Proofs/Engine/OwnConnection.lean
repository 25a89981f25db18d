import TypedQuery.Engine.Basic
import TypedQuery.Proofs.Engine.Schedule

/-!
# Queries on a connection of their own

A query that the engine reads to its end, or as far as its first row, has let go of its connection
when its caller is answered, however it ended (`RowStream.holds_collect`,
`RowStream.holds_firstRow`). So all that is left of it in the engine is what its calls have made of
the store: a connection was handed out, asked once, and taken back (`Engine.exists_calls_fetchAll`,
`Engine.exists_calls_executeOne`).
-/

namespace TypedQuery

/-- A flow that has been closed does not hold its connection. -/
theorem Flow.holds_close (flow : Flow) : flow.close.holds = false := by
  have atEnd : flow.close.isOver = true := isOver_settle rfl
  unfold isOver at atEnd
  unfold holds
  cases task : flow.close.task <;> simp [task] at atEnd ⊢

namespace RowStream

/-- When all rows have been collected, or an error has come up, the connection is free. -/
theorem holds_collect (stream : RowStream) : stream.collect.2.flow.holds = false := by
  fun_induction collect stream with
  | case1 stream row rest h result after collected ih => rwa [collected] at ih
  | case2 stream rest h => exact rest.flow.holds_close
  | case3 stream e rest h => exact rest.flow.holds_close

/-- When the first row has been looked for, the connection is free. -/
theorem holds_firstRow (stream : RowStream) : stream.firstRow.2.flow.holds = false := by
  unfold firstRow
  split
  · next row rest _ => exact rest.flow.holds_close
  · next e rest _ => exact rest.flow.holds_close

/-- When a stream could not be opened, the connection is free. -/
theorem holds_of_refused {columns : List OutputColumn} {flow : Flow} {e : QueryError}
    {stream : RowStream} (refused : ofFlow columns flow = (.error e, stream)) :
    stream.flow.holds = false := by
  unfold ofFlow at refused
  simp only at refused
  split at refused
  · simp at refused
  · next rest _ =>
    obtain ⟨-, rfl⟩ := Prod.mk.inj refused
    exact rest.flow.holds_close

end RowStream

/-- The calls to the store that the query of a plan makes on a connection of its own. -/
inductive Plan.Calls (plan : Plan) : List Call → Prop
  /-- No call is made for a plan that is not compiled. -/
  | uncompiled {e : QueryError} : plan.compile = .error e → Calls plan []
  /-- No connection was handed out. -/
  | refused {query : CompiledQuery} : plan.compile = .ok query → Calls plan [.acquire none]
  /-- The connection was asked once and taken back. -/
  | served {query : CompiledQuery} (connection : ConnectionId) (inTransaction : Bool) :
    plan.compile = .ok query →
    Calls plan [.acquire (some connection), .query connection query.sql query.params,
      .release connection inTransaction]

namespace Engine

variable {engine : Engine}

/-- The engine after a query on a connection of its own. -/
def afterQuery (engine : Engine) (query : CompiledQuery) (connection : ConnectionId) : Engine :=
  { engine with
    store := (engine.store.query connection query.sql query.params).2.release connection }

/-- A stream without a connection gives it back if it had one of its own. -/
theorem settle_own {stream : RowStream} {connection : ConnectionId}
    (free : stream.flow.holds = false) :
    engine.settle stream (some (.own connection)) =
      (⟨stream, none⟩, { engine with store := engine.store.release connection }) := by
  simp [settle, free, letGo]

/-- The engine after the stream of a query, if it could be opened, has been read. -/
def afterReading {α : Type} (read : RowStream → α × RowStream) :
    Except QueryError OpenStream × Engine → Engine
  | (.ok opened, middle) => (middle.settle (read opened.stream).2 opened.lease).2
  | (.error _, middle) => middle

section Reading

variable {α : Type} {read : RowStream → α × RowStream}
  (frees : ∀ stream, (read stream).2.flow.holds = false)

include frees

/-- A query on a connection of its own has given it back when its stream could not be opened, or
when the stream has been read in such a way that it lets go of it. -/
theorem afterReading_run (engine : Engine) (query : CompiledQuery) (connection : ConnectionId) :
    afterReading read (engine.run query connection (.own connection)) =
      engine.afterQuery query connection := by
  unfold run
  rcases asked : engine.store.query connection query.sql query.params with ⟨response, store⟩
  have after : engine.afterQuery query connection =
      { engine with store := store.release connection } := by rw [afterQuery, asked]
  rcases opening : RowStream.ofFlow query.columns (Flow.start engine.buffer response) with
    ⟨e | _, stream⟩
  · -- The stream was not opened, and its query is over.
    have free := RowStream.holds_of_refused opening
    simp only [opening, settle_own free, Except.map]
    exact after.symm
  · -- A query with few rows may let go before it is read; otherwise it does when it has been read.
    by_cases free : stream.flow.holds = false
    · simp only [opening, settle_own free, Except.map]
      exact after.symm
    · have held : settle { engine with store } stream (some (.own connection)) =
          (⟨stream, some (.own connection)⟩, { engine with store }) := by
        simp [settle, free]
      simp only [opening, held, Except.map, afterReading]
      rw [settle_own (frees stream)]
      exact after.symm

/-- Opening the stream of a plan and reading it makes the calls of the plan's query and no
others. -/
theorem exists_calls_execute (engine : Engine) (plan : Plan) :
    ∃ calls, plan.Calls calls ∧
      (afterReading read (engine.execute plan)).store.log = engine.store.log ++ calls := by
  unfold execute
  cases compiled : plan.compile with
  | error e => exact ⟨[], .uncompiled compiled, (List.append_nil _).symm⟩
  | ok query =>
    rcases acquired : engine.store.acquire with ⟨e | connection, store⟩
    · -- The stream has no connection, whether it could be opened or not.
      have same (opening : Except QueryError Unit × RowStream) :
          (afterReading read (opening.1.map fun _ => ⟨opening.2, none⟩,
            { engine with store })).store = store := by
        rcases opening with ⟨e | _, stream⟩ <;> rfl
      obtain ⟨_, handed, -⟩ | ⟨e', -, logged, -⟩ := Store.acquire_cases acquired
      · simp at handed
      · refine ⟨_, .refused compiled, ?_⟩
        simp only
        rw [same]
        exact logged.log
    · obtain ⟨number, same, handed⟩ | ⟨e', same, -⟩ := Store.acquire_cases acquired
      · obtain rfl := Except.ok.inj same
        refine ⟨_, .served connection (store.busy.contains connection) compiled, ?_⟩
        simp only
        rw [afterReading_run frees]
        show store.log ++ [_] ++ [_] = engine.store.log ++ [_, _, _]
        rw [handed.log, List.append_assoc, List.append_assoc]
        rfl
      · simp at same

end Reading

/-- Reading all rows of a plan makes the calls of its query and no others. -/
theorem exists_calls_fetchAll (engine : Engine) (plan : Plan) :
    ∃ calls, plan.Calls calls ∧ (engine.fetchAll plan).2.store.log = engine.store.log ++ calls := by
  have same : (engine.fetchAll plan).2 = afterReading RowStream.collect (engine.execute plan) := by
    unfold fetchAll
    rcases engine.execute plan with ⟨e | opened, middle⟩ <;> rfl
  rw [same]
  exact exists_calls_execute RowStream.holds_collect engine plan

/-- Reading the first row of a plan makes the calls of its query and no others. -/
theorem exists_calls_executeOne (engine : Engine) (plan : Plan) :
    ∃ calls, plan.firstOnly.Calls calls ∧
      (engine.executeOne plan).2.store.log = engine.store.log ++ calls := by
  have same : (engine.executeOne plan).2 =
      afterReading RowStream.firstRow (engine.execute plan.firstOnly) := by
    unfold executeOne
    rcases engine.execute plan.firstOnly with ⟨e | opened, middle⟩ <;> rfl
  rw [same]
  exact exists_calls_execute RowStream.holds_firstRow engine plan.firstOnly

end Engine

end TypedQuery
