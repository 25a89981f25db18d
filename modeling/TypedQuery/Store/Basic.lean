import TypedQuery.Store.Script

/-!
# The store

A store hands out connections, numbered in the order in which they were handed out, and takes calls
on them. It keeps the connections that are out, which of them are in a transaction, and a log of all
calls. A call is logged before its outcome is decided. A connection is in a transaction from a
successful begin to a successful commit or rollback, and a connection given back in one is logged as
such.
-/

namespace TypedQuery

/-- The number of a connection. -/
abbrev ConnectionId := Nat

/-- A call as it is logged. -/
inductive Call where
  /-- A connection was asked for, and handed out unless that failed. -/
  | acquire (connection : Option ConnectionId)
  | query (connection : ConnectionId) (sql : String) (params : List Value)
  | execute (connection : ConnectionId) (sql : String) (params : List Value)
  | batch (connection : ConnectionId) (sql : String)
  | begin (connection : ConnectionId)
  | commit (connection : ConnectionId)
  | rollback (connection : ConnectionId)
  /-- A connection was given back; `inTransaction` if it was in one still. -/
  | release (connection : ConnectionId) (inTransaction : Bool)

/-- A store and what has happened to it. -/
structure Store where
  /-- The largest number of connections that are out at a time. -/
  limit : Nat
  rules : List Rule
  /-- The number of connections handed out so far. -/
  issued : Nat := 0
  /-- The connections that are out. -/
  out : List ConnectionId := []
  /-- The connections that are in a transaction. -/
  busy : List ConnectionId := []
  log : List Call := []

namespace Store

/-- Logs a call and takes its answer from the script. -/
def call (store : Store) (kind : CallKind) (sql : String) (entry : Call) : Response × Store :=
  let (response, rules) := answer kind sql store.rules
  (response, { store with rules, log := store.log ++ [entry] })

/-- Hands out a connection, unless the script or the limit is against it. Nobody holds a connection
while this runs, so all that is left of a crash is the error of the task that it brought down. -/
def acquire (store : Store) : Except QueryError ConnectionId × Store :=
  let (response, rules) := answer .acquire "" store.rules
  let refused (e : QueryError) : Except QueryError ConnectionId × Store :=
    (.error e, { store with rules, log := store.log ++ [.acquire none] })
  match response.ending.result with
  | .error e => refused e
  | .ok () =>
    if store.limit ≤ store.out.length then refused (.storeUnavailable (.exhausted store.limit))
    else
      let connection := store.issued + 1
      (.ok connection,
        { store with
          rules
          issued := connection
          out := store.out ++ [connection]
          log := store.log ++ [.acquire (some connection)] })

/-- Runs a query. -/
def query (store : Store) (connection : ConnectionId) (sql : String) (params : List Value) :
    Response × Store :=
  store.call .query sql (.query connection sql params)

/-- Runs a statement. -/
def execute (store : Store) (connection : ConnectionId) (sql : String) (params : List Value) :
    Response × Store :=
  store.call .execute sql (.execute connection sql params)

/-- Runs several statements. -/
def batch (store : Store) (connection : ConnectionId) (sql : String) : Ending × Store :=
  let (response, store) := store.call .batch sql (.batch connection sql)
  (response.ending, store)

/-- Starts a transaction. -/
def begin (store : Store) (connection : ConnectionId) : Ending × Store :=
  match store.call .begin "" (.begin connection) with
  | (response, store) =>
    match response.ending with
    | .success => (.success, { store with busy := connection :: store.busy })
    | ending => (ending, store)

/-- Ends a transaction by a call of a kind. -/
def finish (store : Store) (kind : CallKind) (connection : ConnectionId) (entry : Call) :
    Ending × Store :=
  match store.call kind "" entry with
  | (response, store) =>
    match response.ending with
    | .success => (.success, { store with busy := store.busy.filter (· ≠ connection) })
    | ending => (ending, store)

/-- Makes the changes of a transaction last. -/
def commit (store : Store) (connection : ConnectionId) : Ending × Store :=
  store.finish .commit connection (.commit connection)

/-- Takes back the changes of a transaction. -/
def rollback (store : Store) (connection : ConnectionId) : Ending × Store :=
  store.finish .rollback connection (.rollback connection)

/-- Gives a connection back. -/
def release (store : Store) (connection : ConnectionId) : Store :=
  { store with
    out := store.out.filter (· ≠ connection)
    busy := store.busy.filter (· ≠ connection)
    log := store.log ++ [.release connection (store.busy.contains connection)] }

end Store

end TypedQuery
