import TypedQuery.Stream.Flow

/-!
# Streams of rows

The reader's side of a flow. Opening a stream waits for the first message, so that a query that
fails before its first row fails here; a first row is kept and given out by the first `next`. When
the flow has no more messages, the end of the task is looked at once: a task that was brought down
is an error, lest its rows be taken for the whole result.

What the reader makes of a message is said once, by `opened` and `heard`. `next?` takes it from a
flow in any state, and has to wait if there is none; `ofFlow`, `next` and what is built from them
take it from a flow whose task has gone first as far as it could.
-/

namespace TypedQuery

/-- A stream of rows. -/
structure RowStream where
  columns : List OutputColumn
  /-- The row that was waited for when the stream was opened. -/
  first : Option RawRow
  flow : Flow
  /-- Whether the end of the task has been looked at. -/
  joined : Bool
  /-- The number of rows that the reader has taken out of the queue. -/
  received : Nat

namespace RowStream

/-- A stream that has not been opened yet. -/
def ofUnopened (columns : List OutputColumn) (flow : Flow) : RowStream where
  columns := columns
  first := none
  flow := flow
  joined := false
  received := 0

/-- Looks at the end of the task, which tells of a crash the first time. -/
def join (stream : RowStream) : Except QueryError Unit × RowStream :=
  let crashed := !stream.joined && stream.flow.isCrashed
  (if crashed then .error (.store .taskFailed) else .ok (), { stream with joined := true })

/-- The stream after its reader has stopped listening. -/
def hangUp (stream : RowStream) : RowStream :=
  { stream with first := none, flow := stream.flow.hangUp }

/-- The stream after its reader has gone away. -/
def drop (stream : RowStream) : RowStream :=
  { stream with first := none, flow := stream.flow.close }

/-- What opening a stream comes to when the reader has heard from the flow for the first time. -/
def opened (stream : RowStream) (message : Option Message) (flow : Flow) :
    Except QueryError Unit × RowStream :=
  match message with
  | some (.ok row) => (.ok (), { stream with first := some row, flow, received := 1 })
  | some (.error e) => (.error e, { stream with flow })
  | none => join { stream with flow }

/-- What `next` comes to when the reader has heard from the flow. -/
def heard (stream : RowStream) (message : Option Message) (flow : Flow) :
    Except QueryError (Option Row) × RowStream :=
  match message with
  | some (.ok raw) =>
    (.ok (some (Row.ofRaw stream.columns raw)),
      { stream with flow, received := stream.received + 1 })
  | some (.error e) => (.error e, { stream with flow })
  | none =>
    let (result, stream) := join { stream with flow }
    (result.map fun _ => none, stream)

/-- Opens a stream on a flow. If that fails the flow is closed. -/
def ofFlow (columns : List OutputColumn) (flow : Flow) : Except QueryError Unit × RowStream :=
  let heard := flow.settle.receive
  match (ofUnopened columns flow).opened heard.1 heard.2 with
  | (.ok (), stream) => (.ok (), stream)
  | (.error e, stream) => (.error e, stream.drop)

/-- The next row, or none at the end, unless the reader has to wait. -/
def next? (stream : RowStream) : Option (Except QueryError (Option Row) × RowStream) :=
  match stream.first with
  | some raw => some (.ok (some (Row.ofRaw stream.columns raw)), { stream with first := none })
  | none => stream.flow.receive?.map fun (message, flow) => stream.heard message flow

/-- The next row, or none at the end. -/
def next (stream : RowStream) : Except QueryError (Option Row) × RowStream :=
  match stream.first with
  | some raw => (.ok (some (Row.ofRaw stream.columns raw)), { stream with first := none })
  | none => stream.heard stream.flow.receive.1 stream.flow.receive.2

/-- The number of rows that a stream can still give out, at most. -/
def remaining (stream : RowStream) : Nat :=
  stream.flow.remaining + if stream.first.isSome then 1 else 0

/-- Giving out a row leaves fewer. -/
theorem remaining_next {stream rest : RowStream} {row : Row}
    (h : stream.next = (.ok (some row), rest)) : rest.remaining < stream.remaining := by
  unfold next at h
  split at h
  · next kept =>
    simp only [Prod.mk.injEq] at h
    rw [← h.2]
    simp [remaining, kept]
  · next waiting =>
    unfold heard at h
    split at h
    · next received =>
      simp only [Prod.mk.injEq] at h
      rw [← h.2]
      have := Flow.remaining_receive (Prod.ext received rfl)
      simpa [remaining, waiting] using this
    · simp at h
    · -- at the end there is no row, whatever became of the task
      simp only [join, Prod.mk.injEq] at h
      obtain ⟨h, -⟩ := h
      split at h <;> simp [Except.map] at h

/-- Stops the query, waits until it has let go of its connection, and tells of a crash. -/
def close (stream : RowStream) : Except QueryError Unit × RowStream :=
  stream.drop.join

/-- The rows that are left, or the first error; the reader goes away in both cases. -/
def collect (stream : RowStream) : Except QueryError (List Row) × RowStream :=
  match _h : stream.next with
  | (.ok (some row), rest) =>
    let (result, stream) := collect rest
    (result.map (row :: ·), stream)
  | (.ok none, rest) => (.ok [], rest.drop)
  | (.error e, rest) => (.error e, rest.drop)
termination_by stream.remaining
decreasing_by exact remaining_next ‹_›

/-- The first row, after which the query is stopped. -/
def firstRow (stream : RowStream) : Except QueryError (Option Row) × RowStream :=
  match stream.next with
  | (.ok row, stream) =>
    let (result, stream) := stream.close
    (result.map fun _ => row, stream)
  | (.error e, stream) => (.error e, stream.drop)

end RowStream

end TypedQuery
