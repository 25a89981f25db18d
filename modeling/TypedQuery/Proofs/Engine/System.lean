import Mathlib.Data.Multiset.Filter
import TypedQuery.Proofs.Engine.Reading

/-!
# The engine between the steps of its tasks

Everything that an engine has been asked for is under way at once: queries with the callers that
read them, errands (migrations, and the begin of transactions), and transactions with their guards.
Each of these is a `Party`. What is going on in an engine is a `System`: the store, and the parties
in no particular order. One step of it is a step of one party; which party, is not for the engine to
say. A run takes any steps at all, so it may be that of one caller that waits for each answer, or of
many callers at a time. The calls of an `Engine`, one after another, are such a run
(`Engine.Reached.exists_quiet`).

A step of the `engine` is one that happens by itself, sooner or later. A step of the `caller` is one
that a caller decides on: a new request, the next call on a stream or a guard that it holds. The
caller may also replace the script of the store at any time, so that a call may have any answer at
any time, and whatever the script says, the store may bring down a task that wants a connection.

A transaction lends its connection to one call at a time. A guard that has been asked for a step
waits until no other party uses the connection, or gives up while one does.

Some fields are kept for the record only, and no step looks at them: what a reading has been given,
what a guard has been asked and has answered, and how its transaction came to its end.
-/

namespace TypedQuery

/-- Who is behind a step. -/
inductive Actor where
  | caller
  | engine

/-- The plan that is compiled. -/
def Purpose.plan : Purpose → Plan → Plan
  | .firstRow, plan => plan.firstOnly
  | .stream, plan | .allRows, plan => plan

/-- What comes of the wish for a connection. -/
inductive Store.Acquires (store : Store) : Except Ending ConnectionId → Store → Prop where
  | granted {connection : ConnectionId} {after : Store} :
    store.acquire = (.ok connection, after) → store.Acquires (.ok connection) after
  | refused {e : QueryError} {after : Store} :
    store.acquire = (.error e, after) → store.Acquires (.error (.failure e)) after
  | crashed : store.Acquires (.error .crash) { store with log := store.log ++ [.acquire none] }

/-! ## Errands -/

/-- What is done on a connection of its own in one call. -/
inductive Job where
  | migration (sql : String)
  /-- The begin of a transaction, which keeps the connection. -/
  | beginning

/-- The call of a job. -/
def Job.perform (job : Job) (store : Store) (connection : ConnectionId) : Ending × Store :=
  match job with
  | .migration sql => store.batch connection sql
  | .beginning => store.begin connection

/-- A job that is being done. -/
inductive Errand where
  /-- It has no connection yet. -/
  | waiting (job : Job)
  | holding (job : Job) (connection : ConnectionId)
  /-- The call has been made and will end like this. -/
  | calling (job : Job) (connection : ConnectionId) (ending : Ending)
  /-- The caller has been told. -/
  | done (connection : Option ConnectionId) (result : Except QueryError Unit)

/-! ## Transactions -/

/-- A call that a guard makes itself. -/
inductive GuardCall where
  | statement (sql : String) (params : List Value)
  | commit
  | rollback

/-- The call on the connection of a transaction. -/
def GuardCall.perform (call : GuardCall) (store : Store) (connection : ConnectionId) :
    Response × Store :=
  match call with
  | .statement sql params => store.execute connection sql params
  | .commit =>
    let (ending, store) := store.commit connection
    ({ ending }, store)
  | .rollback =>
    let (ending, store) := store.rollback connection
    ({ ending }, store)

/-- What a guard may be asked. -/
inductive Request where
  | query (purpose : Purpose) (plan : Plan)
  | call (call : GuardCall)

/-- Where a transaction is. -/
inductive Phase where
  /-- The guard waits for its owner. -/
  | idle
  /-- The guard waits for the connection. -/
  | claiming (request : Request)
  /-- The guard has the connection for a query. -/
  | granted (purpose : Purpose) (plan : Plan)
  /-- The guard has made a call that will give this. -/
  | calling (call : GuardCall) (response : Response)
  /-- The guard is gone, and a task waits for the connection to roll the transaction back. -/
  | abandoned
  /-- The guard is gone, and the roll-back will end like this. -/
  | undoing (ending : Ending)
  /-- The guard is gone, and the connection is given back once no party uses it. -/
  | left
  /-- The connection has been given back. -/
  | ended

/-- Whether the connection has been given back. -/
def Phase.isOver : Phase → Bool
  | .ended => true
  | .idle | .claiming _ | .granted .. | .calling .. | .abandoned | .undoing _ | .left => false

/-- A transaction. -/
structure Transaction where
  connection : ConnectionId
  phase : Phase := .idle
  /-- What the guard has been asked so far. -/
  asked : List Request := []
  /-- What the guard has answered so far; a query that was given the connection answers itself. -/
  answers : List (Except QueryError Nat) := []
  /-- Whether the guard was dropped where no task could wait for the connection. -/
  droppedOutside : Bool := false
  /-- How the commit ends, if it was called. -/
  commit : Option Ending := none
  /-- Whether a roll-back was called. -/
  rolledBack : Bool := false

/-- The phase after a guard has given up waiting: a step leaves the guard as it was, and a commit or
a roll-back has used it up. -/
def Request.refusedPhase : Request → Phase
  | .query .. | .call (.statement ..) => .idle
  | .call .commit | .call .rollback => .abandoned

/-- The phase after a call of the guard has returned. -/
def GuardCall.returnedPhase : GuardCall → Ending → Phase
  | .statement .., _ => .idle
  | .commit, .success => .ended
  | .commit, .failure _ | .commit, .crash => .abandoned
  | .rollback, _ => .ended

namespace Transaction

/-- The transaction after its guard has been asked for something. -/
def ask (transaction : Transaction) (request : Request) : Transaction :=
  { transaction with
    phase := .claiming request
    asked := transaction.asked ++ [request] }

/-- The transaction after its guard has answered, in another phase. -/
def answer (transaction : Transaction) (phase : Phase) (answer : Except QueryError Nat) :
    Transaction :=
  { transaction with phase, answers := transaction.answers ++ [answer] }

/-- The transaction after its guard has made a call. -/
def call (transaction : Transaction) (call : GuardCall) (response : Response) : Transaction :=
  match call with
  | .statement .. => { transaction with phase := .calling call response }
  | .commit =>
    { transaction with phase := .calling call response, commit := some response.ending }
  | .rollback => { transaction with phase := .calling call response, rolledBack := true }

/-- The transaction after its roll-back has been called without its guard. -/
def undo (transaction : Transaction) (ending : Ending) : Transaction :=
  { transaction with phase := .undoing ending, rolledBack := true }

/-- The store after the transaction has come to a phase: at the end the connection is given back. -/
def storeAfter (transaction : Transaction) (phase : Phase) (store : Store) : Store :=
  if phase.isOver then store.release transaction.connection else store

end Transaction

/-! ## Parties -/

/-- Something that an engine has been asked for. -/
inductive Party where
  /-- The task of a query that has not begun; within a transaction it has its connection. -/
  | queued (purpose : Purpose) (query : CompiledQuery) (lent : Option ConnectionId)
  /-- The task of a query that has a connection of its own, before the call. -/
  | supplied (purpose : Purpose) (query : CompiledQuery) (connection : ConnectionId)
  | running (reading : Reading)
  | doing (errand : Errand)
  | keeping (transaction : Transaction)

namespace Party

/-- The connection that a party alone may make calls on. -/
def uses : Party → Option ConnectionId
  | .queued _ _ lent => lent
  | .supplied _ _ connection => some connection
  | .running reading => if reading.holds then reading.connection? else none
  | .doing (.holding _ connection) | .doing (.calling _ connection _) => some connection
  | .doing (.waiting _) | .doing (.done ..) => none
  | .keeping transaction =>
    match transaction.phase with
    | .granted .. | .calling .. | .undoing _ => some transaction.connection
    | .idle | .claiming _ | .abandoned | .left | .ended => none

/-- What a party that wanted a connection of its own for a query becomes. -/
def afterAcquire (buffer : Nat) (purpose : Purpose) (query : CompiledQuery) :
    Except Ending ConnectionId → Party
  | .ok connection => .supplied purpose query connection
  | .error ending => .running (.start buffer purpose query.columns (.refused ending) {})

/-- What a job that wanted a connection becomes. -/
def afterHire (job : Job) : Except Ending ConnectionId → Party
  | .ok connection => .doing (.holding job connection)
  | .error ending => .doing (.done none ending.result)

/-- What a job whose call has returned becomes: a transaction that has begun keeps the connection,
and it is given back otherwise. -/
def afterJob (store : Store) (job : Job) (connection : ConnectionId) (ending : Ending) :
    Party × Store :=
  match job, ending with
  | .beginning, .success => (.keeping { connection }, store)
  | .beginning, .failure _ | .beginning, .crash | .migration _, _ =>
    (.doing (.done (some connection) ending.result), store.release connection)

/-- One step of a party. What it does depends on who is behind it, on the store, and on whether a
connection is free. -/
inductive Moves (buffer : Nat) (free : ConnectionId → Prop) :
    Actor → Store → Party → Store → Party → Prop where
  -- the task of a query, and its caller
  | acquire {store after : Store} {purpose query} {result : Except Ending ConnectionId} :
    store.Acquires result after →
    Moves buffer free .engine store (.queued purpose query none)
      after (afterAcquire buffer purpose query result)
  | queryOwn {store after : Store} {purpose} {query : CompiledQuery} {connection response} :
    store.query connection query.sql query.params = (response, after) →
    Moves buffer free .engine store (.supplied purpose query connection)
      after (.running (.start buffer purpose query.columns (.own connection) response))
  | queryLent {store after : Store} {purpose} {query : CompiledQuery} {connection response} :
    store.query connection query.sql query.params = (response, after) →
    Moves buffer free .engine store (.queued purpose query (some connection))
      after (.running (.start buffer purpose query.columns (.lent connection) response))
  | task {store : Store} {reading : Reading} {flow : Flow} :
    reading.stream.flow.advance? = some flow →
    Moves buffer free .engine store (.running reading)
      (reading.storeAfter flow store) (.running (reading.withFlow flow))
  | read {store : Store} {reading after : Reading} :
    reading.read? = some after →
    Moves buffer free .engine store (.running reading) store (.running after)
  | serve {store : Store} {reading after : Reading} {request : StreamRequest} :
    reading.serve? request = some after →
    Moves buffer free .caller store (.running reading) store (.running after)
  -- errands
  | hire {store after : Store} {job : Job} {result : Except Ending ConnectionId} :
    store.Acquires result after →
    Moves buffer free .engine store (.doing (.waiting job)) after (afterHire job result)
  | perform {store after : Store} {job : Job} {connection ending} :
    job.perform store connection = (ending, after) →
    Moves buffer free .engine store (.doing (.holding job connection))
      after (.doing (.calling job connection ending))
  | complete {store : Store} {job connection ending} :
    Moves buffer free .engine store (.doing (.calling job connection ending))
      (afterJob store job connection ending).2 (afterJob store job connection ending).1
  -- a guard that is asked for something
  | ask {store : Store} {transaction : Transaction} {request : Request} :
    transaction.phase = .idle →
    Moves buffer free .caller store (.keeping transaction)
      store (.keeping (transaction.ask request))
  | refuse {store : Store} {transaction : Transaction} {request : Request} :
    transaction.phase = .claiming request → ¬free transaction.connection →
    Moves buffer free .engine store (.keeping transaction) store (.keeping
      (transaction.answer request.refusedPhase (.error (.storeUnavailable .heldByStream))))
  | grantQuery {store : Store} {transaction : Transaction} {purpose plan} :
    transaction.phase = .claiming (.query purpose plan) → free transaction.connection →
    Moves buffer free .engine store (.keeping transaction)
      store (.keeping { transaction with phase := .granted purpose plan })
  | rejectPlan {store : Store} {transaction : Transaction} {purpose : Purpose} {plan e} :
    transaction.phase = .granted purpose plan → (purpose.plan plan).compile = .error e →
    Moves buffer free .engine store (.keeping transaction)
      store (.keeping (transaction.answer .idle (.error e)))
  | grantCall {store after : Store} {transaction : Transaction} {call : GuardCall} {response} :
    transaction.phase = .claiming (.call call) → free transaction.connection →
    call.perform store transaction.connection = (response, after) →
    Moves buffer free .engine store (.keeping transaction)
      after (.keeping (transaction.call call response))
  | returned {store : Store} {transaction : Transaction} {call : GuardCall} {response} :
    transaction.phase = .calling call response →
    Moves buffer free .engine store (.keeping transaction)
      (transaction.storeAfter (call.returnedPhase response.ending) store)
      (.keeping (transaction.answer (call.returnedPhase response.ending)
        (response.ending.result.map fun _ => response.affected)))
  -- a guard that is dropped, and what it leaves behind
  | drop {store : Store} {transaction : Transaction} :
    transaction.phase = .idle →
    Moves buffer free .caller store (.keeping transaction)
      store (.keeping { transaction with phase := .abandoned })
  | dropOutside {store after : Store} {transaction : Transaction} {ending : Ending} :
    transaction.phase = .idle → free transaction.connection →
    store.rollback transaction.connection = (ending, after) →
    Moves buffer free .caller store (.keeping transaction)
      after (.keeping { transaction.undo ending with droppedOutside := true })
  | leave {store : Store} {transaction : Transaction} :
    transaction.phase = .idle → ¬free transaction.connection →
    Moves buffer free .caller store (.keeping transaction)
      store (.keeping { transaction with phase := .left, droppedOutside := true })
  | undo {store after : Store} {transaction : Transaction} {ending : Ending} :
    transaction.phase = .abandoned → free transaction.connection →
    store.rollback transaction.connection = (ending, after) →
    Moves buffer free .engine store (.keeping transaction)
      after (.keeping (transaction.undo ending))
  | undone {store : Store} {transaction : Transaction} {ending : Ending} :
    transaction.phase = .undoing ending →
    Moves buffer free .engine store (.keeping transaction)
      (transaction.storeAfter .ended store) (.keeping { transaction with phase := .ended })
  | giveUp {store : Store} {transaction : Transaction} :
    transaction.phase = .left → free transaction.connection →
    Moves buffer free .engine store (.keeping transaction)
      (transaction.storeAfter .ended store) (.keeping { transaction with phase := .ended })

end Party

/-! ## Systems -/

/-- What is going on in an engine. -/
structure System where
  store : Store
  /-- The number of rows that a query may be ahead of its reader. -/
  buffer : Nat
  parties : Multiset Party

namespace System

/-- An engine that has not been asked for anything yet. A buffer has room for one row at least. -/
def start (limit : Nat) (rules : List Rule) (buffer : Nat) : System where
  store := { limit, rules }
  buffer := max buffer 1
  parties := 0

/-- Whether a connection is free: no party uses it. -/
def Free (parties : Multiset Party) (connection : ConnectionId) : Prop :=
  ∀ party ∈ parties, party.uses ≠ some connection

/-- One step of a system. -/
inductive Step : Actor → System → System → Prop where
  /-- A party takes a step. -/
  | move {actor : Actor} {store after : Store} {buffer : Nat} {party next : Party}
    {rest : Multiset Party} :
    party.Moves buffer (Free (party ::ₘ rest)) actor store after next →
    Step actor ⟨store, buffer, party ::ₘ rest⟩ ⟨after, buffer, next ::ₘ rest⟩
  /-- A guard hands the connection on to the task of a query. -/
  | lend {store : Store} {buffer : Nat} {rest : Multiset Party} {transaction : Transaction}
    {purpose : Purpose} {plan : Plan} {query : CompiledQuery} :
    transaction.phase = .granted purpose plan → (purpose.plan plan).compile = .ok query →
    Step .engine ⟨store, buffer, .keeping transaction ::ₘ rest⟩
      ⟨store, buffer, .queued purpose query (some transaction.connection) ::ₘ
        .keeping { transaction with phase := .idle } ::ₘ rest⟩
  /-- A plan is run. -/
  | run {store : Store} {buffer : Nat} {parties : Multiset Party} {purpose : Purpose} {plan : Plan}
    {query : CompiledQuery} :
    (purpose.plan plan).compile = .ok query →
    Step .caller ⟨store, buffer, parties⟩ ⟨store, buffer, .queued purpose query none ::ₘ parties⟩
  /-- A job is sent for. -/
  | send {store : Store} {buffer : Nat} {parties : Multiset Party} (job : Job) :
    Step .caller ⟨store, buffer, parties⟩ ⟨store, buffer, .doing (.waiting job) ::ₘ parties⟩
  /-- The store goes by another script. -/
  | rescript {store : Store} {buffer : Nat} {parties : Multiset Party} (rules : List Rule) :
    Step .caller ⟨store, buffer, parties⟩ ⟨{ store with rules }, buffer, parties⟩

/-- What may be going on in an engine after any run. -/
inductive Reachable : System → Prop where
  | start (limit : Nat) (rules : List Rule) (buffer : Nat) : Reachable (start limit rules buffer)
  | step {before after : System} {actor : Actor} :
    Reachable before → Step actor before after → Reachable after

/-- Whether nothing happens any more by itself. -/
def Quiet (system : System) : Prop :=
  ∀ after, ¬Step .engine system after

/-- A buffer has room. -/
theorem Reachable.buffer_pos {system : System} (reached : system.Reachable) :
    0 < system.buffer := by
  induction reached with
  | start limit rules buffer => exact Nat.lt_of_lt_of_le Nat.one_pos (Nat.le_max_right ..)
  | step _ step ih => cases step <;> exact ih

/-- What holds of each party when it comes, and stays true of it whatever step it takes, holds of
every party after any run. -/
theorem Reachable.forall_party {motive : Nat → Party → Prop}
    (queued : ∀ buffer purpose plan query, (Purpose.plan purpose plan).compile = .ok query →
      motive buffer (.queued purpose query none))
    (waiting : ∀ buffer job, motive buffer (.doing (.waiting job)))
    (lend : ∀ buffer transaction purpose plan query, transaction.phase = .granted purpose plan →
      (purpose.plan plan).compile = .ok query → motive buffer (.keeping transaction) →
      motive buffer (.queued purpose query (some transaction.connection)) ∧
        motive buffer (.keeping { transaction with phase := .idle }))
    (moves : ∀ buffer free actor store party after next, 0 < buffer →
      Party.Moves buffer free actor store party after next → motive buffer party →
      motive buffer next)
    {system : System} (reached : system.Reachable) :
    ∀ party ∈ system.parties, motive system.buffer party := by
  induction reached with
  | start limit rules buffer => simp [System.start]
  | step reached step ih =>
    have room := reached.buffer_pos
    cases step with
    | move moved =>
      obtain ⟨first, others⟩ := Multiset.forall_mem_cons.1 ih
      exact Multiset.forall_mem_cons.2 ⟨moves _ _ _ _ _ _ _ room moved first, others⟩
    | @lend _ _ _ transaction purpose plan query granted compiled =>
      obtain ⟨first, others⟩ := Multiset.forall_mem_cons.1 ih
      obtain ⟨task, guard⟩ := lend _ _ _ _ _ granted compiled first
      exact Multiset.forall_mem_cons.2 ⟨task, Multiset.forall_mem_cons.2 ⟨guard, others⟩⟩
    | run compiled => exact Multiset.forall_mem_cons.2 ⟨queued _ _ _ _ compiled, ih⟩
    | send job => exact Multiset.forall_mem_cons.2 ⟨waiting _ _, ih⟩
    | rescript rules => exact ih

/-- A store that hands out no connection has failed or has brought down the task. -/
theorem Acquires.ne_success {store after : Store} {ending : Ending}
    (h : store.Acquires (.error ending) after) : ending ≠ .success := by
  cases h <;> simp

/-- What holds of each reading when its query is started, and stays true of it whatever step the
task or the caller takes, holds of every reading after any run. -/
theorem Reachable.forall_running {motive : Nat → Reading → Prop}
    (start : ∀ buffer purpose columns supply response, 0 < buffer → supply ≠ .refused .success →
      motive buffer (.start buffer purpose columns supply response))
    (task : ∀ buffer reading flow, reading.stream.flow.advance? = some flow →
      motive buffer reading → motive buffer (reading.withFlow flow))
    (read : ∀ buffer reading after, reading.read? = some after →
      motive buffer reading → motive buffer after)
    (serve : ∀ buffer reading after request, reading.serve? request = some after →
      motive buffer reading → motive buffer after)
    {system : System} (reached : system.Reachable) {reading : Reading}
    (mem : .running reading ∈ system.parties) : motive system.buffer reading := by
  refine reached.forall_party (motive := fun buffer party =>
    ∀ reading, party = .running reading → motive buffer reading) ?_ ?_ ?_ ?_ _ mem reading rfl
  · simp
  · simp
  · simp
  · intro buffer free actor store party after next room moved ih reading same
    cases moved with
    | @acquire _ _ purpose query result acquired =>
      cases result with
      | ok connection => simp [Party.afterAcquire] at same
      | error ending =>
        obtain rfl := Party.running.inj same
        exact start _ _ _ _ _ room (by simp [Acquires.ne_success acquired])
    | queryOwn asked => exact Party.running.inj same ▸ start _ _ _ _ _ room (by simp)
    | queryLent asked => exact Party.running.inj same ▸ start _ _ _ _ _ room (by simp)
    | task advanced => exact Party.running.inj same ▸ task _ _ _ advanced (ih _ rfl)
    | read done => exact Party.running.inj same ▸ read _ _ _ done (ih _ rfl)
    | serve done => exact Party.running.inj same ▸ serve _ _ _ _ done (ih _ rfl)
    | @hire _ _ job result acquired => cases result <;> simp [Party.afterHire] at same
    | @complete _ job connection ending =>
      cases job <;> cases ending <;> simp [Party.afterJob] at same
    | _ => simp at same

end System

end TypedQuery
