import TypedQuery.Database.Prepared
import TypedQuery.Store.Basic

/-!
# Connections and what they see of each other

Several connections use one database. Without a transaction of its own a connection makes every
statement a transaction. At most one transaction writes at a time, and its changes are seen by
nobody else until it commits.

How others are kept away depends on how the database is shared. In a file, readers see the last
committed state, a transaction that has read keeps seeing the state of its first reading, and may
not write any more once that state is out of date. In memory there is one state, so a table that a
transaction has written cannot be read by others, and one that it has read cannot be written. A
writer that readers kept out of a table is not passed by: nobody starts to read until the writer has
ended or all who read have.

A connection to a file remembers which tables there are and looks again only if it misses something
or as it gets at a table. Until then it takes a table for missing that another connection has made.
-/

namespace TypedQuery

namespace Database

/-- How connections share a database. -/
inductive Sharing where
  | file
  | memory
  deriving DecidableEq

/-- A committed state, with the number of commits that led to it, those that changed nothing not
counted. -/
structure Snapshot where
  catalog : Catalog := {}
  commits : Nat := 0

/-- What a transaction sees. -/
inductive View where
  /-- It has not looked yet. -/
  | untouched
  | reading (snapshot : Snapshot)
  /-- It writes, and these are the tables with its changes. -/
  | writing (catalog : Catalog)

/-- A transaction, with the tables that it has used. -/
structure Transaction where
  view : View := .untouched
  read : List String := []
  written : List String := []
  /-- Whether others that share its state may not see which tables there are, because it makes one
  or wants to be alone. -/
  hidesTables : Bool := false
  /-- Whether it has changed anything, even if it has changed it back. -/
  hasChanges : Bool := false

/-- A connection. -/
structure Connection where
  transaction : Option Transaction := none
  /-- The number of rows that the last statement changed which may change any. -/
  changes : Nat := 0
  /-- The tables as the connection remembers them, if it has looked. -/
  known : Option Catalog := none

end Database

/-- A database with its connections; one that is not listed has done nothing yet. -/
structure Database where
  sharing : Database.Sharing
  committed : Database.Snapshot := {}
  connections : List (ConnectionId × Database.Connection) := []
  /-- Whether a writer waits for those who read, so that nobody else may start to. -/
  writerWaits : Bool := false

namespace Database

/-- The state of a connection. -/
def connection (db : Database) (c : ConnectionId) : Connection :=
  (db.connections.lookup c).getD {}

/-- Sets the state of a connection. -/
def setConnection (db : Database) (c : ConnectionId) (state : Connection) : Database :=
  { db with connections := (c, state) :: db.connections.filter (·.1 ≠ c) }

/-- Whether a connection is in a transaction. -/
def inTransaction (db : Database) (c : ConnectionId) : Bool :=
  (db.connection c).transaction.isSome

/-- The transactions of the other connections. -/
def otherTransactions (db : Database) (c : ConnectionId) : List Transaction :=
  (db.connections.filter (·.1 ≠ c)).filterMap (·.2.transaction)

/-- Whether a transaction writes. -/
def Transaction.isWriting (t : Transaction) : Bool :=
  match t.view with
  | .writing _ => true
  | .untouched | .reading _ => false

/-- Whether a transaction has read or written. -/
def Transaction.isUnderWay (t : Transaction) : Bool :=
  match t.view with
  | .untouched => false
  | .reading _ | .writing _ => true

/-- The tables as a transaction sees them. -/
def visible (db : Database) (t : Transaction) : Catalog :=
  match t.view, db.sharing with
  | .writing catalog, _ => catalog
  | .reading snapshot, .file => snapshot.catalog
  | .reading _, .memory | .untouched, _ => db.committed.catalog

/-- The tables as a connection sees them. -/
def current (db : Database) (c : ConnectionId) : Catalog :=
  db.visible ((db.connection c).transaction.getD {})

/-- The tables as a connection remembers them. Those in memory are remembered by all together. -/
def remembered (db : Database) (c : ConnectionId) : Catalog :=
  match db.sharing, (db.connection c).known with
  | .file, some catalog => catalog
  | .file, none | .memory, _ => db.current c

/-- The database with a connection remembering tables, or none. -/
def remember (db : Database) (c : ConnectionId) (known : Option Catalog) : Database :=
  db.setConnection c { db.connection c with known }

/-- The database after a connection has looked which tables there are. -/
def look (db : Database) (c : ConnectionId) : Database := db.remember c (db.current c)

/-- The failure of one who may not start to write, or to read, because of a writer. -/
def writeLocked : Sharing → Failure
  | .file => .code 5 "database is locked"
  | .memory => .code 262 "database table is locked"

/-- The failure at a table that another transaction uses. -/
def tableLocked (table : String) : Failure :=
  .code 262 s!"database table is locked: {table}"

/-- The table that says which tables there are. Every transaction under way reads it. -/
def definitions : String := "sqlite_master"

/-- A transaction as it starts to write, unless another one does or it has read what is out of
date. -/
def startWriting (db : Database) (c : ConnectionId) (t : Transaction) :
    Except Failure Transaction :=
  if t.isWriting then .ok t
  else if (db.otherTransactions c).any (·.isWriting) then .error (writeLocked db.sharing)
  else
    let outdated : Bool := match t.view, db.sharing with
      | .reading snapshot, .file => snapshot.commits ≠ db.committed.commits
      | _, _ => false
    if outdated then .error (.code 517 "database is locked")
    else .ok { t with view := .writing db.committed.catalog }

/-- A transaction as it starts to read, unless a writer waits. -/
def startReading (db : Database) (t : Transaction) : Except Failure Transaction :=
  match t.view with
  | .untouched =>
    if db.writerWaits then .error (writeLocked db.sharing)
    else .ok { t with view := .reading db.committed }
  | .reading _ | .writing _ => .ok t

/-- What comes of an attempt to get at what a statement uses. What the transaction has started to do
it goes on doing, even if it is kept out of a table. -/
structure Entry where
  transaction : Transaction
  failure : Option Failure := none
  /-- Whether it is a writer that readers keep out of a table. -/
  waits : Bool := false

/-- A transaction as it gets at what a statement uses, unless others are in the way. -/
def enter (db : Database) (c : ConnectionId) (t : Transaction) (access : Access) : Entry :=
  let keptOut (others : Transaction → List String) (table : String) : Bool :=
    db.sharing = .memory && (db.otherTransactions c).any fun other =>
      (others other).any (sameName table)
  match access with
  | .nothing => { transaction := t }
  | .reads table =>
    match db.startReading t with
    | .error failure => { transaction := t, failure }
    | .ok t =>
      if keptOut (·.written) table then { transaction := t, failure := tableLocked table }
      else { transaction := { t with read := table :: t.read } }
  | .writes table =>
    match db.startWriting c t with
    | .error failure => { transaction := t, failure }
    | .ok t =>
      if keptOut (·.read) table then
        { transaction := t, failure := tableLocked table, waits := true }
      else { transaction := { t with written := table :: t.written } }
  | .definesTable =>
    match db.startWriting c t with
    | .error failure => { transaction := t, failure }
    | .ok t =>
      if db.sharing = .memory ∧ (db.otherTransactions c).any (·.isUnderWay) then
        { transaction := t, failure := tableLocked definitions, waits := true }
      else { transaction := { t with hidesTables := true } }

/-- Makes the changes of a transaction last. -/
def keep (db : Database) (t : Transaction) : Database :=
  match t.view with
  | .writing catalog =>
    if t.hasChanges then { db with committed := ⟨catalog, db.committed.commits + 1⟩ } else db
  | .untouched | .reading _ => db

/-- The database after a connection's transaction has ended. A writer does not wait any more if it
has ended itself, or if the last one has that it waited for. -/
def withoutTransaction (db : Database) (c : ConnectionId) (t : Transaction) : Database :=
  let others := (db.otherTransactions c).filter (·.isUnderWay)
  let ended := t.isWriting || (t.isUnderWay && others.length ≤ 1)
  { db.setConnection c { db.connection c with transaction := none } with
    writerWaits := db.writerWaits && !ended }

/-- Closes a connection. A transaction that it is in leaves no trace. -/
def close (db : Database) (c : ConnectionId) : Database :=
  let ended := match (db.connection c).transaction with
    | some t => db.withoutTransaction c t
    | none => db
  { ended with connections := ended.connections.filter (·.1 ≠ c) }

/-- A transaction after a statement in it. -/
def Transaction.after (t : Transaction) (statement : Statement) :
    Except Stop Statement.Effect → Transaction
  | .ok effect =>
    if t.isWriting then
      { t with view := .writing effect.catalog, hasChanges := t.hasChanges || effect.alters }
    else t
  | .error stop => { t with hasChanges := t.hasChanges || statement.changesBack stop }

/-- Runs a statement in a transaction. A statement that stops changes no table, but what it got at
stays with the transaction. -/
def runWithin (db : Database) (c : ConnectionId) (t : Transaction) (statement : Statement)
    (params : List Value) : Except Stop Statement.Effect × Entry :=
  let entry := db.enter c t statement.access
  match entry.failure with
  | some failure => (.error (.failure failure), entry)
  | none =>
    let outcome := statement.run (db.visible entry.transaction) params
    (outcome, { entry with transaction := entry.transaction.after statement outcome })

/-- A transaction as it starts. -/
def begun (db : Database) (c : ConnectionId) (t : Transaction) : Onset → Except Failure Transaction
  | .deferred => .ok t
  | .immediate => db.startWriting c t
  | .exclusive =>
    if t.isWriting then .ok t
    else if db.sharing = .memory ∧ (db.otherTransactions c).any (·.isUnderWay) then
      .error (writeLocked db.sharing)
    else (db.startWriting c t).map ({ · with hidesTables := true })

/-- Starts a transaction on a connection. -/
def start (db : Database) (c : ConnectionId) (onset : Onset) : Except Stop Unit × Database :=
  let state := db.connection c
  let t := state.transaction.getD {}
  match db.begun c t onset with
  | .error failure => (.error (.failure failure), db)
  | .ok t =>
    let after := db.setConnection c { state with transaction := some t }
    if state.transaction.isSome then
      (.error (.failure (.code 1 "cannot start a transaction within a transaction")), after)
    else (.ok (), after)

/-- Whether a transaction has made a table. -/
def hasNewTable (db : Database) (t : Transaction) : Bool :=
  match t.view with
  | .writing catalog => catalog.tables.length ≠ db.committed.catalog.tables.length
  | .untouched | .reading _ => false

/-- Ends the transaction of a connection, making its changes last or not. A connection whose new
tables are gone forgets which tables there are. -/
def finish (db : Database) (c : ConnectionId) (committing : Bool) : Except Stop Unit × Database :=
  let state := db.connection c
  match state.transaction with
  | none =>
    let verb := if committing then "commit" else "rollback"
    (.error (.failure (.code 1 s!"cannot {verb} - no transaction is active")), db)
  | some t =>
    let after := if committing then db.keep t
      else if db.hasNewTable t then db.remember c none
      else db
    (.ok (), after.withoutTransaction c t)

/-- The number of changed rows that a connection remembers after a statement. A change that fails
has changed none. -/
def changesAfter (before : Nat) (access : Access) : Except Stop Statement.Effect → Nat
  | .ok effect => effect.changed.getD before
  | .error _ =>
    match access with
    | .writes _ => 0
    | .nothing | .reads _ | .definesTable => before

/-- Runs a bound statement on a connection, in its transaction or else as a transaction of its own.
-/
def perform (db : Database) (c : ConnectionId) (statement : Statement) (params : List Value) :
    Except Stop (List RawRow) × Database :=
  let state := db.connection c
  let noRows (outcome : Except Stop Unit × Database) := (outcome.1.map fun _ => [], outcome.2)
  match statement with
  | .begin onset => noRows (db.start c onset)
  | .commit => noRows (db.finish c true)
  | .rollback => noRows (db.finish c false)
  | _ =>
    let (outcome, entry) := db.runWithin c (state.transaction.getD {}) statement params
    let state := { state with changes := changesAfter state.changes statement.access outcome }
    let after := match state.transaction, outcome with
      | some _, _ =>
        { db.setConnection c { state with transaction := some entry.transaction } with
          writerWaits := db.writerWaits || entry.waits }
      | none, .ok _ => (db.keep entry.transaction).setConnection c state
      | none, .error _ => db.setConnection c state
    let looks := entry.failure.isNone && !statement.access.isNothing
    (outcome.map (·.rows), if looks then after.look c else after)

/-! ## Calls -/

/-- Refuses any statement of a connection while another one hides the tables of the one state that
they share. -/
def checkDefinitions (db : Database) (c : ConnectionId) : Except Failure Unit :=
  if db.sharing = .memory ∧ (db.otherTransactions c).any (·.hidesTables) then
    .error (.code 262 "database schema is locked: main")
  else .ok ()

/-- Binds a statement to the tables that a connection remembers. It looks which there are if it
remembers none or if they may be others by now. -/
def bind (db : Database) (c : ConnectionId) (statement : Statement) :
    Except Mistake Statement × Database :=
  let tables := db.remembered c
  match statement.bind tables with
  | .ok bound => (.ok bound, if bound.access.isNothing then db else db.remember c tables)
  | .error mistake =>
    if mistake.mayBeOutdated then (statement.bind (db.current c), db.look c)
    else (.error mistake, db.remember c tables)

/-- The first statement of a text as a connection can run it, and the text after it. -/
def prepare (db : Database) (c : ConnectionId) (text : String) :
    Except Failure (Option Prepared × String) × Database :=
  match db.checkDefinitions c, Prepared.first text with
  | .error failure, _ | _, .error failure => (.error failure, db)
  | .ok (), .ok (none, rest) => (.ok (none, rest), db)
  | .ok (), .ok (some prepared, rest) =>
    match db.bind c prepared.statement with
    | (.error mistake, db) => (.error (mistake.toFailure text), db)
    | (.ok statement, db) => (.ok (some { prepared with statement }, rest), db)

/-- The end of a call that a stop brings about. -/
def Stop.ending : Stop → Ending
  | .failure cause => .failure cause.toError
  | .unreadable => .crash

/-- The end of a call with a failure. -/
def failed (failure : Failure) : Response := { ending := .failure failure.toError }

/-- Runs the first statement of a text with values for its placeholders. Values are counted until
one is too many. -/
def callFirst (db : Database) (c : ConnectionId) (sql : String) (params : List Value)
    (respond : List RawRow → Database → Response) : Response × Database :=
  match db.prepare c sql with
  | (.error failure, db) => (failed failure, db)
  | (.ok (prepared, _), db) =>
    let needed := (prepared.map (·.placeholders)).getD 0
    if params.length ≠ needed then
      (failed (.parameterCount (min params.length (needed + 1)) needed), db)
    else
      match prepared with
      | none => (failed (.code 21 "not an error"), db)
      | some prepared =>
        match db.perform c prepared.statement (params.map Value.stored) with
        | (.ok rows, after) => (respond rows after, after)
        | (.error stop, after) => ({ ending := stop.ending }, after)

/-- Runs a query. -/
def query (db : Database) (c : ConnectionId) (sql : String) (params : List Value) :
    Response × Database :=
  db.callFirst c sql params fun rows _ => { rows }

/-- Runs a statement that gives no rows. -/
def execute (db : Database) (c : ConnectionId) (sql : String) (params : List Value) :
    Response × Database :=
  db.callFirst c sql params fun rows after =>
    if rows.isEmpty then { affected := (after.connection c).changes } else failed .returnedRows

/-- Runs the statements of a text one after another up to the first that fails; `fuel` bounds their
number. -/
def batchFrom (c : ConnectionId) : Nat → Database → String → Ending × Database
  | 0, db, _ => (.success, db)
  | fuel + 1, db, sql =>
    if sql.isEmpty then (.success, db)
    else match db.prepare c sql with
    | (.error failure, db) => (.failure failure.toError, db)
    | (.ok (none, _), db) => (.success, db)
    | (.ok (some prepared, rest), db) =>
      match db.perform c prepared.statement [] with
      | (.error stop, after) => (stop.ending, after)
      | (.ok _, after) => batchFrom c fuel after rest

/-- Runs the statements of a text one after another. What was done before one that fails stays. -/
def batch (db : Database) (c : ConnectionId) (sql : String) : Ending × Database :=
  batchFrom c (sql.length + 1) db sql

end Database

end TypedQuery
