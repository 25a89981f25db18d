import TypedQuery.Engine.Basic

/-!
# Transactions

A transaction is a unit of work on a connection of its own. Its guard, known by a name, takes the
steps of the transaction and ends it. A step is refused while a query of the transaction holds the
connection, and the transaction goes on. A commit or a roll-back that is refused, or a commit that
fails, leaves the transaction without its guard, and so does dropping the guard; the transaction is
then rolled back as soon as its connection is free. A guard that is dropped where no task can wait
for the connection gives up on it if it is not free at once.
-/

namespace TypedQuery

namespace Engine

/-- The transaction that the guard of a name is for. -/
def session? (engine : Engine) (name : String) : Option Session :=
  engine.sessions.find? (·.fate = .guarded name)

/-- The engine after the fate of a transaction has changed. -/
def setFate (engine : Engine) (connection : ConnectionId) (fate : Fate) : Engine :=
  { engine with
    sessions := engine.sessions.map fun session =>
      if session.connection = connection then { session with fate } else session }

/-- Drops the guard of a transaction. The ending is that of the roll-back where the one who drops
the guard has to wait for it. -/
def dropGuard (engine : Engine) (session : Session) (canWait : Bool) : Ending × Engine :=
  if engine.isHeld session.connection then
    (.success, engine.setFate session.connection (if canWait then .rollBack else .giveBack))
  else
    let (ending, engine) := engine.rollBack session.connection
    (if canWait then .success else ending, engine)

/-- Begins a transaction, whose guard has a name. The guard that had the name is dropped. -/
def begin (engine : Engine) (name : String) : Except QueryError Unit × Engine :=
  match engine.store.acquire with
  | (.error e, store) => (.error e, { engine with store })
  | (.ok connection, store) =>
    match store.begin connection with
    | (.success, store) =>
      let engine := { engine with store }
      let engine := match engine.session? name with
        | some old => (engine.dropGuard old true).2
        | none => engine
      (.ok (), { engine with sessions := engine.sessions ++ [⟨connection, .guarded name⟩] })
    | (ending, store) => (ending.result, { engine with store := store.release connection })

/-- Takes a step of a transaction unless a query holds its connection. -/
def claim {α : Type} (engine : Engine) (session : Session)
    (step : Except QueryError α × Engine) : Except QueryError α × Engine :=
  if engine.isHeld session.connection then (.error (.storeUnavailable .heldByStream), engine)
  else step

/-- Opens a stream on a plan's query within a transaction. -/
def executeIn (engine : Engine) (session : Session) (plan : Plan) :
    Except QueryError OpenStream × Engine :=
  engine.claim session <|
    match plan.compile with
    | .error e => (.error e, engine)
    | .ok query => engine.run query session.connection (.lent session.connection)

/-- All rows of a plan within a transaction. -/
def fetchAllIn (engine : Engine) (session : Session) (plan : Plan) :
    Except QueryError (List Row) × Engine :=
  collectOpened (engine.executeIn session plan)

/-- The first row of a plan within a transaction. -/
def executeOneIn (engine : Engine) (session : Session) (plan : Plan) :
    Except QueryError (Option Row) × Engine :=
  firstOpened (engine.executeIn session plan.firstOnly)

/-- Runs a statement within a transaction: the number of rows that it changed. -/
def statement (engine : Engine) (session : Session) (sql : String) (params : List Value) :
    Except QueryError Nat × Engine :=
  engine.claim session <|
    let (response, store) := engine.store.execute session.connection sql params
    (response.ending.result.map fun _ => response.affected, { engine with store })

/-- Ends a transaction by making its changes last. -/
def commit (engine : Engine) (session : Session) : Except QueryError Unit × Engine :=
  if engine.isHeld session.connection then
    (.error (.storeUnavailable .heldByStream), (engine.dropGuard session true).2)
  else
    match engine.store.commit session.connection with
    | (.success, store) => (.ok (), giveBack { engine with store } session.connection)
    | (ending, store) => (ending.result, (rollBack { engine with store } session.connection).2)

/-- Ends a transaction by taking its changes back. -/
def rollbackNow (engine : Engine) (session : Session) : Except QueryError Unit × Engine :=
  if engine.isHeld session.connection then
    (.error (.storeUnavailable .heldByStream), (engine.dropGuard session true).2)
  else
    let (ending, engine) := engine.rollBack session.connection
    (ending.result, engine)

/-! ## The end -/

/-- The names of the guards. -/
def guardNames (engine : Engine) : List String :=
  engine.sessions.filterMap (·.fate.guard?)

/-- Names in their order. -/
def inOrder (names : List String) : List String :=
  names.mergeSort fun a b => !(b < a)

/-- Drops the guard of a name. -/
def dropNamed (engine : Engine) (name : String) : Engine :=
  match engine.session? name with
  | some session => (engine.dropGuard session true).2
  | none => engine

/-- Drops every stream and then every guard, in the order of their names. -/
def shutDown (engine : Engine) : Engine :=
  let engine := (inOrder (engine.streams.map (·.1))).foldl dropStream engine
  (inOrder engine.guardNames).foldl dropNamed engine

end Engine

end TypedQuery
