import TypedQuery.Sql.Query
import TypedQuery.Store.Basic
import TypedQuery.Stream.RowStream

/-!
# Queries that are being read

A query's task and the caller that reads its rows take their steps in any order. A `Reading` is a
state of both: the stream between them, what the caller waits for, and what it has been given so
far. The task's step is that of the flow. The caller's own step is `read?`, which is possible unless
the caller has to wait or has nothing to wait for; what a caller that holds an open stream may ask
for is `serve?`.

Three things are asked of a plan. A stream is opened and left to the caller. All rows are a stream
that is collected as soon as it is open. The first row is a stream of which one row is taken and
which is then closed.
-/

namespace TypedQuery

/-- What a plan is run for. -/
inductive Purpose where
  /-- A stream for the caller to read. -/
  | stream
  | allRows
  | firstRow

/-- Where the connection of a query comes from. -/
inductive Supply where
  /-- The store was asked for one and handed out none; that ended like this. -/
  | refused (ending : Ending)
  /-- The store handed it out for the query. -/
  | own (connection : ConnectionId)
  /-- It is that of the transaction in which the query runs. -/
  | lent (connection : ConnectionId)

/-- What a caller that is done with a stream has of it. -/
inductive Outcome where
  | rows (rows : List Row)
  | row (row : Option Row)
  | closed
  | dropped

/-- What the caller does. -/
inductive Reader where
  /-- It waits for the first message. -/
  | opening
  /-- It has been told that the stream cannot be opened. -/
  | refused (e : QueryError)
  /-- It holds the open stream. -/
  | idle
  /-- It waits for the rows that are left, and has these already. -/
  | collecting (rows : List Row)
  /-- It waits for the first row, after which the stream is closed. -/
  | looking
  /-- It has stopped listening and waits for the end of the task. -/
  | closing (outcome : Outcome)
  /-- The stream is gone. -/
  | done (answer : Except QueryError Outcome)

/-- What a caller may ask of an open stream. -/
inductive StreamRequest where
  | next
  | collect
  | close
  | drop

/-- A query that is being read. -/
structure Reading where
  purpose : Purpose
  supply : Supply
  /-- What the store gives for the query, in the end. -/
  response : Response
  stream : RowStream
  reader : Reader
  /-- The results of all calls of `next` so far, those of a collecting caller among them. -/
  given : List (Except QueryError (Option Row))

namespace Reading

/-- A query whose task has been supplied with a connection, or has been refused one, in which case
it ends before it gives a row. -/
def start (buffer : Nat) (purpose : Purpose) (columns : List OutputColumn) (supply : Supply)
    (response : Response) : Reading where
  purpose := purpose
  supply := supply
  response :=
    match supply with
    | .refused ending => { ending }
    | .own _ | .lent _ => response
  stream := RowStream.ofUnopened columns <|
    match supply with
    | .refused ending => .ended buffer ending
    | .own _ | .lent _ => .start buffer response
  reader := .opening
  given := []

/-- The connection that the query was supplied with. -/
def connection? (reading : Reading) : Option ConnectionId :=
  match reading.supply with
  | .refused _ => none
  | .own connection | .lent connection => some connection

/-- Whether the query still holds its connection. -/
def holds (reading : Reading) : Bool :=
  reading.stream.flow.holds

/-- The reading in a later state of its flow. -/
def withFlow (reading : Reading) (flow : Flow) : Reading :=
  { reading with stream := { reading.stream with flow } }

/-- The store after the task has come to a later state of the flow: a connection of its own is given
back when the query lets go of it. -/
def storeAfter (reading : Reading) (flow : Flow) (store : Store) : Store :=
  match reading.supply with
  | .own connection =>
    if reading.holds && !flow.holds then store.release connection else store
  | .refused _ | .lent _ => store

/-- What the caller does once its stream is open. -/
def opened : Purpose → Reader
  | .stream => .idle
  | .allRows => .collecting []
  | .firstRow => .looking

/-- The reading after the caller has waited for the first message. -/
def afterOpening (reading : Reading) (heard : Option Message × Flow) : Reading :=
  match reading.stream.opened heard.1 heard.2 with
  | (.ok (), stream) => { reading with stream, reader := opened reading.purpose }
  | (.error e, stream) => { reading with stream := stream.hangUp, reader := .refused e }

/-- The reading after a collecting caller, with some rows already, has called `next`. -/
def afterCollecting (reading : Reading) (rows : List Row)
    (next : Except QueryError (Option Row) × RowStream) : Reading :=
  let given := reading.given ++ [next.1]
  match next.1 with
  | .ok (some row) =>
    { reading with stream := next.2, given, reader := .collecting (rows ++ [row]) }
  | .ok none =>
    { reading with stream := next.2.hangUp, given, reader := .done (.ok (.rows rows)) }
  | .error e => { reading with stream := next.2.hangUp, given, reader := .done (.error e) }

/-- The reading after a caller that wants one row has called `next`. -/
def afterLooking (reading : Reading) (next : Except QueryError (Option Row) × RowStream) :
    Reading :=
  let given := reading.given ++ [next.1]
  match next.1 with
  | .ok row => { reading with stream := next.2.hangUp, given, reader := .closing (.row row) }
  | .error e => { reading with stream := next.2.hangUp, given, reader := .done (.error e) }

/-- The reading after the task of a closed stream has ended. -/
def afterClosing (reading : Reading) (outcome : Outcome) : Reading :=
  { reading with
    stream := reading.stream.join.2
    reader := .done (reading.stream.join.1.map fun _ => outcome) }

/-- One step of a caller that waits, if there is what it waits for. -/
def read? (reading : Reading) : Option Reading :=
  match reading.reader with
  | .opening => reading.stream.flow.receive?.map reading.afterOpening
  | .collecting rows => reading.stream.next?.map (reading.afterCollecting rows)
  | .looking => reading.stream.next?.map reading.afterLooking
  | .closing outcome =>
    if reading.stream.flow.isOver then some (reading.afterClosing outcome) else none
  | .idle | .refused _ | .done _ => none

/-- What becomes of an open stream when its caller asks for something. A call of `next` takes place
when there is something for it to return. -/
def serve? (reading : Reading) (request : StreamRequest) : Option Reading :=
  match reading.reader with
  | .idle =>
    match request with
    | .next => reading.stream.next?.map fun next =>
      { reading with stream := next.2, given := reading.given ++ [next.1] }
    | .collect => some { reading with reader := .collecting [] }
    | .close =>
      some { reading with stream := reading.stream.hangUp, reader := .closing .closed }
    | .drop =>
      some { reading with stream := reading.stream.hangUp, reader := .done (.ok .dropped) }
  | .opening | .refused _ | .collecting _ | .looking | .closing _ | .done _ => none

/-- What a caller that waits does next. -/
theorem read_cases {reading after : Reading} (h : reading.read? = some after) :
    (∃ heard, reading.reader = .opening ∧ reading.stream.flow.receive? = some heard ∧
        after = reading.afterOpening heard) ∨
      (∃ rows next, reading.reader = .collecting rows ∧ reading.stream.next? = some next ∧
        after = reading.afterCollecting rows next) ∨
      (∃ next, reading.reader = .looking ∧ reading.stream.next? = some next ∧
        after = reading.afterLooking next) ∨
      ∃ outcome, reading.reader = .closing outcome ∧ reading.stream.flow.isOver = true ∧
        after = reading.afterClosing outcome := by
  unfold read? at h
  split at h
  · next opening =>
    obtain ⟨heard, received, rfl⟩ := Option.map_eq_some_iff.1 h
    exact .inl ⟨heard, opening, received, rfl⟩
  · next rows collecting =>
    obtain ⟨next, called, rfl⟩ := Option.map_eq_some_iff.1 h
    exact .inr (.inl ⟨rows, next, collecting, called, rfl⟩)
  · next looking =>
    obtain ⟨next, called, rfl⟩ := Option.map_eq_some_iff.1 h
    exact .inr (.inr (.inl ⟨next, looking, called, rfl⟩))
  · next outcome closing =>
    split at h
    · next atEnd => exact .inr (.inr (.inr ⟨outcome, closing, atEnd, (Option.some.inj h).symm⟩))
    · simp at h
  all_goals simp at h

/-- What a caller that holds an open stream may do with it. -/
theorem serve_cases {reading after : Reading} {request : StreamRequest}
    (h : reading.serve? request = some after) :
    reading.reader = .idle ∧
      ((∃ next, reading.stream.next? = some next ∧
          after = { reading with stream := next.2, given := reading.given ++ [next.1] }) ∨
        after = { reading with reader := .collecting [] } ∨
        after = { reading with stream := reading.stream.hangUp, reader := .closing .closed } ∨
        after =
          { reading with stream := reading.stream.hangUp, reader := .done (.ok .dropped) }) := by
  unfold serve? at h
  split at h
  · next idle =>
    refine ⟨idle, ?_⟩
    cases request with
    | next =>
      obtain ⟨next, called, rfl⟩ := Option.map_eq_some_iff.1 h
      exact .inl ⟨next, called, rfl⟩
    | collect => exact .inr (.inl (Option.some.inj h).symm)
    | close => exact .inr (.inr (.inl (Option.some.inj h).symm))
    | drop => exact .inr (.inr (.inr (Option.some.inj h).symm))
  all_goals simp at h

end Reading

end TypedQuery
