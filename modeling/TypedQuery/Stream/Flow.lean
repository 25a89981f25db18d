import TypedQuery.Store.Script

/-!
# The flow of rows from a query

A query runs in a task of its own. The task puts each row into a queue of bounded length and waits
while the queue is full; the reader takes messages out at the other end. When the query has ended
with an error, the error is one more message. When the reader stops listening, the next row finds
nobody, and the query ends early as if it had been done.

A `Flow` is a state of both. `advance?` is one step of the task, which is possible unless the task
has to wait or has ended, and `receive?` is one step of the reader, which is possible unless the
reader has to wait. The two may come in any order; `settle` is the order in which the task goes
first as long as it can.

The query holds its connection until it ends. It lets go of it before an error is put into the
queue.
-/

namespace TypedQuery

/-- What the reader takes out of the queue: a row, or the error that the query ended with. -/
abbrev Message := Except QueryError RawRow

/-- Where the task of a query is. -/
inductive Task where
  /-- The query runs. -/
  | querying
  /-- The query has handed over a row and waits until the row is in the queue. -/
  | offering (row : RawRow)
  /-- The query has ended with an error, which is not in the queue yet. -/
  | reporting (e : QueryError)
  | done
  /-- The query has brought the task down. -/
  | crashed

/-- Where the task is once the query has ended. -/
def Task.after : Ending → Task
  | .success => .done
  | .failure e => .reporting e
  | .crash => .crashed

/-- A query that is read through a queue. -/
structure Flow where
  /-- The length that the queue may have. -/
  capacity : Nat
  /-- The rows that the query has not handed over yet. -/
  unsent : List RawRow
  /-- How the query ends after its last row. -/
  ending : Ending
  task : Task
  queue : List Message
  /-- Whether the reader listens. -/
  listening : Bool

namespace Flow

/-- A query that has just been started. -/
def start (capacity : Nat) (response : Response) : Flow where
  capacity := capacity
  unsent := response.rows
  ending := response.ending
  task := .querying
  queue := []
  listening := true

/-- A query that ended before it was started. -/
def ended (capacity : Nat) (ending : Ending) : Flow where
  capacity := capacity
  unsent := []
  ending := ending
  task := .after ending
  queue := []
  listening := true

/-- Whether the query still holds its connection. -/
def holds (flow : Flow) : Bool :=
  match flow.task with
  | .querying | .offering _ => true
  | .reporting _ | .done | .crashed => false

/-- Whether the task has ended. -/
def isOver (flow : Flow) : Bool :=
  match flow.task with
  | .done | .crashed => true
  | .querying | .offering _ | .reporting _ => false

/-- Whether the query has brought the task down. -/
def isCrashed (flow : Flow) : Bool :=
  match flow.task with
  | .crashed => true
  | .querying | .offering _ | .reporting _ | .done => false

/-- Whether the queue has room. -/
def hasRoom (flow : Flow) : Bool :=
  flow.queue.length < flow.capacity

/-- One step of the task, if it neither waits nor has ended. -/
def advance? (flow : Flow) : Option Flow :=
  match flow.task with
  | .querying =>
    match flow.unsent with
    | row :: rest => some { flow with task := .offering row, unsent := rest }
    | [] => some { flow with task := .after flow.ending }
  | .offering row =>
    if !flow.listening then some { flow with task := .done }
    else if flow.hasRoom then
      some { flow with task := .querying, queue := flow.queue ++ [.ok row] }
    else none
  | .reporting e =>
    if !flow.listening then some { flow with task := .done }
    else if flow.hasRoom then some { flow with task := .done, queue := flow.queue ++ [.error e] }
    else none
  | .done | .crashed => none

/-- The number of steps that the task has left at most. -/
def work (flow : Flow) : Nat :=
  match flow.task with
  | .querying => 2 * flow.unsent.length + 2
  | .offering _ => 2 * flow.unsent.length + 3
  | .reporting _ => 1
  | .done | .crashed => 0

/-- The number of messages that the reader can still take at most. -/
def remaining (flow : Flow) : Nat :=
  flow.queue.length +
    match flow.task with
    | .querying => flow.unsent.length + 1
    | .offering _ => flow.unsent.length + 2
    | .reporting _ => 1
    | .done | .crashed => 0

/-- What one step of the task does: the query hands over its next row or ends, and what it has
handed over or ended with goes into the queue if there is room, or nowhere if nobody listens. -/
theorem advance_cases {flow next : Flow} (h : flow.advance? = some next) :
    (∃ row rest, flow.task = .querying ∧ flow.unsent = row :: rest ∧
        next = { flow with task := .offering row, unsent := rest }) ∨
      (flow.task = .querying ∧ flow.unsent = [] ∧
        next = { flow with task := .after flow.ending }) ∨
      (∃ row, flow.task = .offering row ∧ flow.listening = true ∧ flow.hasRoom = true ∧
        next = { flow with task := .querying, queue := flow.queue ++ [.ok row] }) ∨
      (∃ e, flow.task = .reporting e ∧ flow.listening = true ∧ flow.hasRoom = true ∧
        next = { flow with task := .done, queue := flow.queue ++ [.error e] }) ∨
      (((∃ row, flow.task = .offering row) ∨ ∃ e, flow.task = .reporting e) ∧
        flow.listening = false ∧ next = { flow with task := .done }) := by
  unfold advance? at h
  split at h
  · next querying =>
    split at h
    · next row rest more => exact .inl ⟨row, rest, querying, more, (Option.some.inj h).symm⟩
    · next none => exact .inr (.inl ⟨querying, none, (Option.some.inj h).symm⟩)
  · next row offering =>
    split at h
    · next deaf =>
      exact .inr (.inr (.inr (.inr
        ⟨.inl ⟨row, offering⟩, by simpa using deaf, (Option.some.inj h).symm⟩)))
    · next hears =>
      split at h
      · next room =>
        exact .inr (.inr (.inl
          ⟨row, offering, by simpa using hears, room, (Option.some.inj h).symm⟩))
      · simp at h
  · next e reporting =>
    split at h
    · next deaf =>
      exact .inr (.inr (.inr (.inr
        ⟨.inr ⟨e, reporting⟩, by simpa using deaf, (Option.some.inj h).symm⟩)))
    · next hears =>
      split at h
      · next room =>
        exact .inr (.inr (.inr (.inl
          ⟨e, reporting, by simpa using hears, room, (Option.some.inj h).symm⟩)))
      · simp at h
  · simp at h
  · simp at h

/-- A step of the task brings it nearer to its end. -/
theorem work_advance {flow next : Flow} (h : flow.advance? = some next) :
    next.work < flow.work := by
  obtain ⟨row, rest, task, unsent, rfl⟩ | ⟨task, unsent, rfl⟩ | ⟨row, task, -, -, rfl⟩ |
    ⟨e, task, -, -, rfl⟩ | ⟨⟨row, task⟩ | ⟨e, task⟩, -, rfl⟩ := advance_cases h
  · simp only [work, task, unsent, List.length_cons]
    omega
  · cases ending : flow.ending <;> simp [work, task, unsent, Task.after]
  · simp [work, task]
  · simp [work, task]
  · simp [work, task]
  · simp [work, task]

/-- A step of the task adds at most the message that it has left to send. -/
theorem remaining_advance {flow next : Flow} (h : flow.advance? = some next) :
    next.remaining ≤ flow.remaining := by
  obtain ⟨row, rest, task, unsent, rfl⟩ | ⟨task, unsent, rfl⟩ | ⟨row, task, -, -, rfl⟩ |
    ⟨e, task, -, -, rfl⟩ | ⟨⟨row, task⟩ | ⟨e, task⟩, -, rfl⟩ := advance_cases h
  · simp only [remaining, task, unsent, List.length_cons]
    omega
  · cases ending : flow.ending <;> simp [remaining, task, unsent, Task.after]
  · simp only [remaining, task, List.length_append, List.length_singleton]
    omega
  · simp [remaining, task]
  · simp [remaining, task]
  · simp [remaining, task]

/-- The flow after the task has gone as far as it can without the reader. -/
def settle (flow : Flow) : Flow :=
  match _h : flow.advance? with
  | some next => settle next
  | none => flow
termination_by flow.work
decreasing_by exact work_advance ‹_›

/-- After settling, no more messages are left than before. -/
theorem remaining_settle (flow : Flow) : flow.settle.remaining ≤ flow.remaining := by
  fun_induction settle flow with
  | case1 flow next h ih => exact Nat.le_trans ih (remaining_advance h)
  | case2 flow h => exact Nat.le_refl _

/-- What the reader hears next and the flow after it, unless the reader has to wait: a message, or
that there are no more once the task has ended. -/
def receive? (flow : Flow) : Option (Option Message × Flow) :=
  match flow.queue with
  | message :: rest => some (some message, { flow with queue := rest })
  | [] => if flow.isOver then some (none, flow) else none

/-- The next message of a settled flow, which is settled again; without one, the task has ended. -/
def receive (flow : Flow) : Option Message × Flow :=
  match flow.receive? with
  | some (message, next) => (message, next.settle)
  | none => (none, flow)

/-- Taking a message leaves fewer. -/
theorem remaining_receive {flow next : Flow} {message : Message}
    (h : flow.receive = (some message, next)) : next.remaining < flow.remaining := by
  unfold receive receive? at h
  split at h
  · next heard =>
    split at heard
    · next first rest queue =>
      simp only [Option.some.injEq, Prod.mk.injEq] at heard h
      rw [← h.2, ← heard.2]
      refine Nat.lt_of_le_of_lt (remaining_settle _) ?_
      simp [remaining, queue]
    · split at heard <;> simp_all
  · simp at h

/-- The flow after the reader has stopped listening. -/
def hangUp (flow : Flow) : Flow :=
  { flow with queue := [], listening := false }

/-- The flow after the reader has stopped listening and the task has gone as far as it can. -/
def close (flow : Flow) : Flow :=
  flow.hangUp.settle

end Flow

end TypedQuery
