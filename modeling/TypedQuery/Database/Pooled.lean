import TypedQuery.Database.Isolation
import TypedQuery.Database.Pool

/-!
# A database behind a pool

What a program opens: a database together with a pool of connections to it. The first connection is
opened at once, so that a place where no database can be is found out early. A script may be run
before anyone else gets a connection.

Clients are known by name and hold one connection each. A client that asks again gets the new
connection before it gives the old one back.
-/

namespace TypedQuery

namespace Database

/-- Where a database is. -/
inductive Place where
  | memory
  | file
  /-- A file that cannot be made, because its directory is not there. -/
  | unreachable
  deriving DecidableEq

/-- How connections to a place share the database. -/
def Place.sharing : Place → Sharing
  | .memory => .memory
  | .file | .unreachable => .file

end Database

/-- A database with its pool. -/
structure PooledDatabase where
  place : Database.Place
  database : Database
  pool : Database.Pool
  /-- The number of connections opened so far. -/
  issued : Nat := 0
  /-- Who holds which connection. -/
  held : List (String × ConnectionId) := []

namespace PooledDatabase

open Database

/-- The number of connections that may be open if nothing else is said. -/
def defaultLimit : Nat := 8

/-- The error of a script that is not there. -/
def scriptMissing : QueryError := .io "No such file or directory (os error 2)"

/-- Opens a connection for a place that has been reserved. A new connection is set up by statements
of its own, which may be refused, and looks which tables there are. -/
def connect (store : PooledDatabase) : Except QueryError ConnectionId × PooledDatabase :=
  let refused (failure : Failure) : Except QueryError ConnectionId × PooledDatabase :=
    (.error failure.toError, { store with pool := store.pool.giveUp })
  match store.place with
  | .unreachable => refused (.code 14 "unable to open database file")
  | .memory | .file =>
    let c := store.issued + 1
    match store.database.checkDefinitions c with
    | .error failure => refused failure
    | .ok () => (.ok c, { store with issued := c, database := store.database.look c })

/-- Lends out a connection. -/
def checkout (store : PooledDatabase) : Except QueryError ConnectionId × PooledDatabase :=
  let (answer, pool) := store.pool.checkout
  let store := { store with pool }
  match answer with
  | .idle c => (.ok c, store)
  | .reserved => store.connect
  | .exhausted => (.error (.storeUnavailable (.exhausted pool.limit)), store)

/-- Takes a connection back, and closes it if it is in a transaction. -/
def takeBack (store : PooledDatabase) (c : ConnectionId) : PooledDatabase :=
  let inTransaction := store.database.inTransaction c
  { store with
    pool := store.pool.takeBack c inTransaction
    database := if inTransaction then store.database.close c else store.database }

/-- Runs a script on a connection of its own. -/
def runScript (store : PooledDatabase) (sql : String) : Except QueryError Unit × PooledDatabase :=
  match store.checkout with
  | (.error e, store) => (.error e, store)
  | (.ok c, store) =>
    let (ending, database) := store.database.batch c sql
    (ending.result, { store with database }.takeBack c)

/-- Opens a database with a limit of connections, none counting as one, and runs a script in it,
given as its text or as the error of getting at it. -/
def open? (place : Place) (limit : Nat) (script : Option (Except QueryError String)) :
    Except QueryError PooledDatabase := do
  let empty : PooledDatabase :=
    { place, database := { sharing := place.sharing }, pool := { limit := max limit 1 } }
  let (first, store) := empty.checkout
  let store := store.takeBack (← first)
  match script with
  | none => return store
  | some script =>
    let (outcome, store) := store.runScript (← script)
    outcome
    return store

/-- The number of connections that are open. -/
def openConnections (store : PooledDatabase) : Nat := store.pool.opened

/-- The connection that a client holds. -/
def heldBy? (store : PooledDatabase) (client : String) : Option ConnectionId :=
  store.held.lookup client

/-- Takes back the connection that a client holds, if it holds one. -/
def release (store : PooledDatabase) (client : String) : PooledDatabase :=
  match store.heldBy? client with
  | none => store
  | some c => { store with held := store.held.filter (·.1 ≠ client) }.takeBack c

/-- Lends a connection to a client, and only then takes back the one that it holds. -/
def acquire (store : PooledDatabase) (client : String) : Except QueryError Unit × PooledDatabase :=
  match store.checkout with
  | (.error e, store) => (.error e, store)
  | (.ok c, store) =>
    let store := store.release client
    (.ok (), { store with held := (client, c) :: store.held })

/-- Runs something on the database. -/
def use {α : Type} (store : PooledDatabase) (call : Database → α × Database) : α × PooledDatabase :=
  let (answer, database) := call store.database
  (answer, { store with database })

end PooledDatabase

end TypedQuery
