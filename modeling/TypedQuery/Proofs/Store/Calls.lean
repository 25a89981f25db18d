import TypedQuery.Store.Basic

/-!
# What a call does to the store

Only `acquire` and `release` change which connections are out. Every call adds one entry to the log,
so the log of a run is the list of its calls in order.
-/

namespace TypedQuery

namespace Call

/-- The connection that was handed out. -/
def handedOut? : Call → Option ConnectionId
  | .acquire connection => connection
  | .query .. | .execute .. | .batch .. | .begin _ | .commit _ | .rollback _ | .release .. => none

/-- The connection that was taken back. -/
def takenBack? : Call → Option ConnectionId
  | .release connection _ => some connection
  | .acquire _ | .query .. | .execute .. | .batch .. | .begin _ | .commit _ | .rollback _ => none

/-- The connection that the call was made on. -/
def on? : Call → Option ConnectionId
  | .query connection .. | .execute connection .. | .batch connection _ | .begin connection
  | .commit connection | .rollback connection => some connection
  | .acquire _ | .release .. => none

/-- A call on a connection hands none out and takes none back. -/
theorem moves_none_of_on {call : Call} {connection : ConnectionId}
    (h : call.on? = some connection) : call.handedOut? = none ∧ call.takenBack? = none := by
  cases call <;> simp_all [on?, handedOut?, takenBack?]

end Call

namespace Store

/-- What a call does that moves no connection. -/
structure Serves (store : Store) (call : Call) (after : Store) : Prop where
  log : after.log = store.log ++ [call]
  limit : after.limit = store.limit
  issued : after.issued = store.issued
  out : after.out = store.out

variable {store after : Store} {connection : ConnectionId} {sql : String} {params : List Value}

/-- A query is logged. -/
theorem serves_query {response : Response}
    (h : store.query connection sql params = (response, after)) :
    store.Serves (.query connection sql params) after := by
  obtain ⟨-, rfl⟩ := Prod.mk.inj h
  exact ⟨rfl, rfl, rfl, rfl⟩

/-- A statement is logged. -/
theorem serves_execute {response : Response}
    (h : store.execute connection sql params = (response, after)) :
    store.Serves (.execute connection sql params) after := by
  obtain ⟨-, rfl⟩ := Prod.mk.inj h
  exact ⟨rfl, rfl, rfl, rfl⟩

/-- A batch is logged. -/
theorem serves_batch {ending : Ending} (h : store.batch connection sql = (ending, after)) :
    store.Serves (.batch connection sql) after := by
  obtain ⟨-, rfl⟩ := Prod.mk.inj h
  exact ⟨rfl, rfl, rfl, rfl⟩

/-- A begin is logged, whether or not it succeeds. -/
theorem serves_begin {ending : Ending} (h : store.begin connection = (ending, after)) :
    store.Serves (.begin connection) after := by
  unfold begin call at h
  split at h
  next response served called =>
    obtain ⟨-, rfl⟩ := Prod.mk.inj called
    split at h <;> obtain ⟨-, rfl⟩ := Prod.mk.inj h <;> exact ⟨rfl, rfl, rfl, rfl⟩

/-- The end of a transaction is logged, whether or not it succeeds. -/
theorem serves_finish {kind : CallKind} {entry : Call} {ending : Ending}
    (h : store.finish kind connection entry = (ending, after)) : store.Serves entry after := by
  unfold finish call at h
  split at h
  next response served called =>
    obtain ⟨-, rfl⟩ := Prod.mk.inj called
    split at h <;> obtain ⟨-, rfl⟩ := Prod.mk.inj h <;> exact ⟨rfl, rfl, rfl, rfl⟩

/-- A commit is logged. -/
theorem serves_commit {ending : Ending} (h : store.commit connection = (ending, after)) :
    store.Serves (.commit connection) after :=
  serves_finish h

/-- A roll-back is logged. -/
theorem serves_rollback {ending : Ending} (h : store.rollback connection = (ending, after)) :
    store.Serves (.rollback connection) after :=
  serves_finish h

/-- What comes of handing out a connection: it has the next number, and there was room for it. -/
structure HandsOut (store : Store) (connection : ConnectionId) (after : Store) : Prop where
  log : after.log = store.log ++ [.acquire (some connection)]
  limit : after.limit = store.limit
  fresh : connection = store.issued + 1
  issued : after.issued = connection
  out : after.out = store.out ++ [connection]
  room : store.out.length < store.limit

/-- A store hands out a connection, or its script or its limit is against that. A script is against
it by a failure or by a crash. -/
theorem acquire_cases {result : Except QueryError ConnectionId}
    (h : store.acquire = (result, after)) :
    (∃ connection, result = .ok connection ∧ store.HandsOut connection after) ∨
      (∃ e, result = .error e ∧ store.Serves (.acquire none) after ∧
        ((answer .acquire "" store.rules).1.ending.result = .error e ∨
          (e = .storeUnavailable (.exhausted store.limit) ∧ store.limit ≤ store.out.length))) := by
  unfold acquire at h
  generalize answered : answer .acquire "" store.rules = given at *
  obtain ⟨response, rules⟩ := given
  simp only at h ⊢
  split at h
  · next e failed =>
    obtain ⟨rfl, rfl⟩ := Prod.mk.inj h
    exact .inr ⟨e, rfl, ⟨rfl, rfl, rfl, rfl⟩, .inl failed⟩
  · split at h
    · next full =>
      obtain ⟨rfl, rfl⟩ := Prod.mk.inj h
      exact .inr ⟨_, rfl, ⟨rfl, rfl, rfl, rfl⟩, .inr ⟨rfl, full⟩⟩
    · next room =>
      obtain ⟨rfl, rfl⟩ := Prod.mk.inj h
      exact .inl ⟨_, rfl, ⟨rfl, rfl, rfl, rfl, rfl, Nat.lt_of_not_le room⟩⟩

/-- A store with room for connections does not hand one out if it crashes when it is asked. -/
example : (acquire ⟨8, [⟨.acquire, "", none, { ending := .crash }⟩], 0, [], [], []⟩).1 =
    .error (.store .taskFailed) :=
  rfl

/-- A connection that was given back is not out, and every other one is out as before. -/
theorem count_out_release (store : Store) (given connection : ConnectionId) :
    (store.release given).out.count connection =
      if given = connection then 0 else store.out.count connection := by
  unfold release
  split
  · next same => simp [same, List.count_eq_zero]
  · next other => exact List.count_filter (by simpa using fun same => other same.symm)

end Store

/-! ## Counts of calls -/

/-- How often a connection was handed out. -/
def handOuts (log : List Call) (connection : ConnectionId) : Nat :=
  log.countP fun call => call.handedOut? = some connection

/-- How often a connection was taken back. -/
def takeBacks (log : List Call) (connection : ConnectionId) : Nat :=
  log.countP fun call => call.takenBack? = some connection

/-- One call more hands out what it hands out. -/
theorem handOuts_append (log : List Call) (call : Call) (connection : ConnectionId) :
    handOuts (log ++ [call]) connection =
      handOuts log connection + if call.handedOut? = some connection then 1 else 0 := by
  simp [handOuts, List.countP_append, List.countP_singleton]

/-- One call more takes back what it takes back. -/
theorem takeBacks_append (log : List Call) (call : Call) (connection : ConnectionId) :
    takeBacks (log ++ [call]) connection =
      takeBacks log connection + if call.takenBack? = some connection then 1 else 0 := by
  simp [takeBacks, List.countP_append, List.countP_singleton]

end TypedQuery
