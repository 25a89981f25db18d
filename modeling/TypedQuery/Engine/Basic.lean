import TypedQuery.Sql.Query
import TypedQuery.Store.Basic
import TypedQuery.Stream.RowStream

/-!
# The engine

The engine compiles plans and runs them against a store. A query outside of any transaction has a
connection of its own, from before it starts until it ends; a transaction has one from its begin to
its end and lends it to its own queries, one at a time.

A connection therefore has one owner at a time: a running call, an unfinished query, or a
transaction. A query lets go of its connection when it ends, and the engine looks after that at once
(`Engine.settle`): the connection of a query of its own goes back to the store, and that of a
transaction whose guard is gone is rolled back, or just given back if nobody is left to do so.

Whenever the engine has answered, every query has gone as far as it can go without its reader.
-/

namespace TypedQuery

/-- Whose connection a query runs on. -/
inductive Lease where
  | own (connection : ConnectionId)
  | lent (connection : ConnectionId)
  deriving DecidableEq

/-- A stream and the connection that its query holds, if it still holds one. -/
structure OpenStream where
  stream : RowStream
  lease : Option Lease

/-- What becomes of a transaction's connection. -/
inductive Fate where
  /-- The guard of a name decides. -/
  | guarded (name : String)
  /-- The guard is gone, and the transaction is to be rolled back once no query holds the
  connection. -/
  | rollBack
  /-- The guard is gone, and the connection is to be given back once no query holds it. -/
  | giveBack
  deriving DecidableEq

/-- The name of the guard that decides, if there is one. -/
def Fate.guard? : Fate → Option String
  | .guarded name => some name
  | .rollBack | .giveBack => none

/-- A transaction that has not ended. -/
structure Session where
  connection : ConnectionId
  fate : Fate
  deriving DecidableEq

/-- An engine with its store, its open streams and its open transactions. -/
structure Engine where
  store : Store
  /-- The number of rows that a query may be ahead of its reader. -/
  buffer : Nat
  streams : List (String × OpenStream) := []
  sessions : List Session := []

namespace Engine

/-- An engine over a store. A buffer has room for one row at least. -/
def new (store : Store) (buffer : Nat) : Engine where
  store := store
  buffer := max buffer 1

/-- The number of connections that are out. -/
def openConnections (engine : Engine) : Nat :=
  engine.store.out.length

/-- Whether an open stream's query holds the connection of a transaction. -/
def isHeld (engine : Engine) (connection : ConnectionId) : Bool :=
  engine.streams.any fun (_, opened) => opened.lease = some (.lent connection)

/-- The engine without a transaction. -/
def endSession (engine : Engine) (connection : ConnectionId) : Engine :=
  { engine with sessions := engine.sessions.filter (·.connection ≠ connection) }

/-- Gives the connection of a transaction back to the store. -/
def giveBack (engine : Engine) (connection : ConnectionId) : Engine :=
  endSession { engine with store := engine.store.release connection } connection

/-- Rolls a transaction back and gives its connection back to the store, whether or not the
roll-back succeeds. -/
def rollBack (engine : Engine) (connection : ConnectionId) : Ending × Engine :=
  let (ending, store) := engine.store.rollback connection
  (ending, giveBack { engine with store } connection)

/-- What is due when a query has let go of its connection. -/
def letGo (engine : Engine) : Lease → Engine
  | .own connection => { engine with store := engine.store.release connection }
  | .lent connection =>
    match engine.sessions.find? (·.connection = connection) with
    | some ⟨_, .rollBack⟩ => (engine.rollBack connection).2
    | some ⟨_, .giveBack⟩ => engine.giveBack connection
    | some ⟨_, .guarded _⟩ | none => engine

/-- A stream and the engine after looking whether its query has let go of its connection. -/
def settle (engine : Engine) (stream : RowStream) (lease : Option Lease) : OpenStream × Engine :=
  match lease with
  | some held =>
    if stream.flow.holds then (⟨stream, lease⟩, engine) else (⟨stream, none⟩, engine.letGo held)
  | none => (⟨stream, none⟩, engine)

/-- Starts a query on a connection and opens a stream on it. -/
def run (engine : Engine) (query : CompiledQuery) (connection : ConnectionId) (lease : Lease) :
    Except QueryError OpenStream × Engine :=
  let (response, store) := engine.store.query connection query.sql query.params
  let flow := Flow.start engine.buffer response
  let (result, stream) := RowStream.ofFlow query.columns flow
  let (opened, engine) := settle { engine with store } stream (some lease)
  (result.map fun _ => opened, engine)

/-- Opens a stream on a plan's query, on a connection of its own. -/
def execute (engine : Engine) (plan : Plan) : Except QueryError OpenStream × Engine :=
  match plan.compile with
  | .error e => (.error e, engine)
  | .ok query =>
    match engine.store.acquire with
    | (.ok connection, store) => run { engine with store } query connection (.own connection)
    | (.error e, store) =>
      let (result, stream) := RowStream.ofFlow query.columns (.ended engine.buffer (.failure e))
      (result.map fun _ => ⟨stream, none⟩, { engine with store })

/-- Reads all rows of a stream that was just opened. -/
def collectOpened (opened : Except QueryError OpenStream × Engine) :
    Except QueryError (List Row) × Engine :=
  match opened with
  | (.ok opened, engine) =>
    let (result, stream) := opened.stream.collect
    (result, (engine.settle stream opened.lease).2)
  | (.error e, engine) => (.error e, engine)

/-- Reads the first row of a stream that was just opened. -/
def firstOpened (opened : Except QueryError OpenStream × Engine) :
    Except QueryError (Option Row) × Engine :=
  match opened with
  | (.ok opened, engine) =>
    let (result, stream) := opened.stream.firstRow
    (result, (engine.settle stream opened.lease).2)
  | (.error e, engine) => (.error e, engine)

/-- All rows of a plan. -/
def fetchAll (engine : Engine) (plan : Plan) : Except QueryError (List Row) × Engine :=
  collectOpened (engine.execute plan)

/-- The first row of a plan, if it has one. -/
def executeOne (engine : Engine) (plan : Plan) : Except QueryError (Option Row) × Engine :=
  firstOpened (engine.execute plan.firstOnly)

/-- Runs statements that change the tables themselves. -/
def migrate (engine : Engine) (sql : String) : Except QueryError Unit × Engine :=
  match engine.store.acquire with
  | (.error e, store) => (.error e, { engine with store })
  | (.ok connection, store) =>
    let (ending, store) := store.batch connection sql
    (ending.result, { engine with store := store.release connection })

/-! ## Open streams -/

/-- The open stream of a name. -/
def stream? (engine : Engine) (name : String) : Option OpenStream :=
  (engine.streams.find? (·.1 = name)).map (·.2)

/-- The engine without the stream of a name. -/
def forgetStream (engine : Engine) (name : String) : Engine :=
  { engine with streams := engine.streams.filter (·.1 ≠ name) }

/-- Takes a step on the stream of a name, which stays open. -/
def onStream {α : Type} (engine : Engine) (name : String) (opened : OpenStream)
    (step : RowStream → α × RowStream) : α × Engine :=
  let (result, stream) := step opened.stream
  let (opened, engine) := (engine.forgetStream name).settle stream opened.lease
  (result, { engine with streams := engine.streams ++ [(name, opened)] })

/-- Takes the last step on the stream of a name. -/
def endStream {α : Type} (engine : Engine) (name : String) (opened : OpenStream)
    (step : RowStream → α × RowStream) : α × Engine :=
  let (result, stream) := step opened.stream
  (result, ((engine.forgetStream name).settle stream opened.lease).2)

/-- Drops the stream of a name. -/
def dropStream (engine : Engine) (name : String) : Engine :=
  match engine.stream? name with
  | some opened => (engine.endStream name opened fun stream => ((), stream.drop)).2
  | none => engine

/-- Keeps a stream that was just opened under a name. A stream that had the name is dropped. -/
def keepStream (name : String) (opened : Except QueryError OpenStream × Engine) :
    Except QueryError (List OutputColumn) × Engine :=
  match opened with
  | (.ok opened, engine) =>
    let engine := engine.dropStream name
    (.ok opened.stream.columns, { engine with streams := engine.streams ++ [(name, opened)] })
  | (.error e, engine) => (.error e, engine)

end Engine

end TypedQuery
