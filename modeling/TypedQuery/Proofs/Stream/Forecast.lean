import TypedQuery.Stream.RowStream

/-!
# What a stream will give

While its reader listens, what a stream will give is settled: the row that it keeps, the messages in
the queue, and what the task has still to send. No step of the task changes it, and a call of `next`
takes off its first result. So the results of `next` are those of the query in order, whenever the
task and the reader take their steps: the rows, then how the query ended, then nothing for good.
-/

namespace TypedQuery

/-- The result of `next` that a message stands for. -/
def Message.result (columns : List OutputColumn) : Message → Except QueryError (Option Row)
  | .ok raw => .ok (some (Row.ofRaw columns raw))
  | .error e => .error e

/-- The message that a query ends with, if there is one. -/
def Ending.messages : Ending → List Message
  | .failure e => [.error e]
  | .success | .crash => []

/-- Whether a query brings its task down. -/
def Ending.isCrash : Ending → Bool
  | .crash => true
  | .success | .failure _ => false

/-- The result of the call of `next` with some number on a query that gives a response: its rows one
by one, then its end, and then nothing. -/
def Response.result (response : Response) (columns : List OutputColumn) (k : Nat) :
    Except QueryError (Option Row) :=
  match response.rows[k]? with
  | some raw => .ok (some (Row.ofRaw columns raw))
  | none =>
    if k = response.rows.length then response.ending.result.map fun _ => none else .ok none

namespace Flow

/-- The messages that a listening reader has still to hear. -/
def pending (flow : Flow) : List Message :=
  flow.queue ++
    match flow.task with
    | .querying => flow.unsent.map .ok ++ flow.ending.messages
    | .offering row => .ok row :: (flow.unsent.map .ok ++ flow.ending.messages)
    | .reporting e => [.error e]
    | .done | .crashed => []

/-- Whether the task has been brought down or will be. -/
def isDoomed (flow : Flow) : Bool :=
  match flow.task with
  | .querying | .offering _ => flow.ending.isCrash
  | .crashed => true
  | .reporting _ | .done => false

variable {flow next : Flow}

/-- A step of the task changes neither whether the reader listens nor the length that the queue may
have. -/
theorem keeps_advance (h : flow.advance? = some next) :
    next.listening = flow.listening ∧ next.capacity = flow.capacity := by
  obtain ⟨row, rest, -, -, rfl⟩ | ⟨-, -, rfl⟩ | ⟨row, -, -, -, rfl⟩ | ⟨e, -, -, -, rfl⟩ |
    ⟨-, -, rfl⟩ := advance_cases h <;> exact ⟨rfl, rfl⟩

/-- While the reader listens, a step of the task changes nothing about what there is to hear. -/
theorem pending_advance (hears : flow.listening = true) (h : flow.advance? = some next) :
    next.pending = flow.pending ∧ next.isDoomed = flow.isDoomed := by
  obtain ⟨row, rest, task, unsent, rfl⟩ | ⟨task, unsent, rfl⟩ | ⟨row, task, -, -, rfl⟩ |
    ⟨e, task, -, -, rfl⟩ | ⟨-, deaf, -⟩ := advance_cases h
  · simp [pending, isDoomed, task, unsent]
  · cases ending : flow.ending <;>
      simp [pending, isDoomed, task, unsent, ending, Task.after, Ending.messages, Ending.isCrash]
  · simp [pending, isDoomed, task]
  · simp [pending, isDoomed, task]
  · simp [hears] at deaf

/-- What a reader hears is the first of the messages, and then there is one less. That there are no
more is heard when the task has ended. -/
theorem receive_cases {heard : Option Message × Flow} (h : flow.receive? = some heard) :
    (∃ message rest, flow.queue = message :: rest ∧
        heard = (some message, { flow with queue := rest })) ∨
      (flow.queue = [] ∧ flow.isOver = true ∧ heard = (none, flow)) := by
  unfold receive? at h
  split at h
  · next message rest queue => exact .inl ⟨message, rest, queue, (Option.some.inj h).symm⟩
  · next queue =>
    split at h
    · next atEnd => exact .inr ⟨queue, atEnd, (Option.some.inj h).symm⟩
    · simp at h

/-- A task that has ended sends nothing more. -/
theorem pending_of_isOver (atEnd : flow.isOver = true) (queue : flow.queue = []) :
    flow.pending = [] ∧ flow.isDoomed = flow.isCrashed := by
  cases task : flow.task <;> simp_all [isOver, pending, isDoomed, isCrashed]

end Flow

namespace RowStream

/-- What a listening reader has still to be given. -/
def upcoming (stream : RowStream) : List (Except QueryError (Option Row)) :=
  (stream.first.toList.map fun raw => .ok (some (Row.ofRaw stream.columns raw))) ++
    (stream.flow.pending.map (Message.result stream.columns) ++
      if !stream.joined && stream.flow.isDoomed then [.error (.store .taskFailed)] else [])

/-- What the call of `next` with some number will return, counted from now on. -/
def forecast (stream : RowStream) (k : Nat) : Except QueryError (Option Row) :=
  stream.upcoming[k]?.getD (.ok none)

variable {stream : RowStream}

/-- While the reader listens, a step of the task changes no forecast. -/
theorem forecast_advance {flow : Flow} (hears : stream.flow.listening = true)
    (h : stream.flow.advance? = some flow) :
    RowStream.forecast { stream with flow } = stream.forecast := by
  obtain ⟨pending, doomed⟩ := Flow.pending_advance hears h
  funext k
  simp [forecast, upcoming, pending, doomed]

/-- What a call of `next` does: it gives out the row that the stream keeps, or takes a row or an
error out of the queue, or finds that the task has ended. -/
theorem next_cases {result : Except QueryError (Option Row)} {after : RowStream}
    (h : stream.next? = some (result, after)) :
    (∃ raw, stream.first = some raw ∧ result = .ok (some (Row.ofRaw stream.columns raw)) ∧
        after = { stream with first := none }) ∨
      (∃ raw rest, stream.first = none ∧ stream.flow.queue = .ok raw :: rest ∧
        result = .ok (some (Row.ofRaw stream.columns raw)) ∧
        after = { stream with
          flow := { stream.flow with queue := rest }, received := stream.received + 1 }) ∨
      (∃ e rest, stream.first = none ∧ stream.flow.queue = .error e :: rest ∧
        result = .error e ∧ after = { stream with flow := { stream.flow with queue := rest } }) ∨
      (stream.first = none ∧ stream.flow.queue = [] ∧ stream.flow.isOver = true ∧
        result = stream.join.1.map (fun _ => none) ∧ after = stream.join.2) := by
  unfold next? at h
  split at h
  · next raw kept =>
    obtain ⟨rfl, rfl⟩ := Prod.mk.inj (Option.some.inj h)
    exact .inl ⟨raw, kept, rfl, rfl⟩
  · next waiting =>
    obtain ⟨heard, received, same⟩ := Option.map_eq_some_iff.1 h
    obtain ⟨message, rest, queue, rfl⟩ | ⟨queue, atEnd, rfl⟩ := Flow.receive_cases received
    · cases message with
      | ok raw =>
        obtain ⟨rfl, rfl⟩ := Prod.mk.inj same
        exact .inr (.inl ⟨raw, rest, waiting, queue, rfl, rfl⟩)
      | error e =>
        obtain ⟨rfl, rfl⟩ := Prod.mk.inj same
        exact .inr (.inr (.inl ⟨e, rest, waiting, queue, rfl, rfl⟩))
    · obtain ⟨rfl, rfl⟩ := Prod.mk.inj same
      exact .inr (.inr (.inr ⟨waiting, queue, atEnd, rfl, rfl⟩))

/-- What opening a stream does: it keeps the first row, or fails with the error that comes instead,
or finds that the task has ended. -/
theorem opened_cases {heard : Option Message × Flow} (h : stream.flow.receive? = some heard) :
    (∃ raw rest, stream.flow.queue = .ok raw :: rest ∧
        stream.opened heard.1 heard.2 = (.ok (), { stream with
          first := some raw, flow := { stream.flow with queue := rest }, received := 1 })) ∨
      (∃ e rest, stream.flow.queue = .error e :: rest ∧
        stream.opened heard.1 heard.2 =
          (.error e, { stream with flow := { stream.flow with queue := rest } })) ∨
      (stream.flow.queue = [] ∧ stream.flow.isOver = true ∧
        stream.opened heard.1 heard.2 = stream.join) := by
  obtain ⟨message, rest, queue, rfl⟩ | ⟨queue, atEnd, rfl⟩ := Flow.receive_cases h
  · cases message with
    | ok raw => exact .inl ⟨raw, rest, queue, rfl⟩
    | error e => exact .inr (.inl ⟨e, rest, queue, rfl⟩)
  · exact .inr (.inr ⟨queue, atEnd, rfl⟩)

/-- What a reader leaves as it is when it hears from the flow. -/
structure Leaves (before after : RowStream) : Prop where
  columns : after.columns = before.columns
  capacity : after.flow.capacity = before.flow.capacity
  unsent : after.flow.unsent = before.flow.unsent
  task : after.flow.task = before.flow.task
  queue : after.flow.queue ⊆ before.flow.queue
  listening : after.flow.listening = before.flow.listening

/-- A call of `next` is no matter for the task. -/
theorem leaves_next {result : Except QueryError (Option Row)} {after : RowStream}
    (h : stream.next? = some (result, after)) : stream.Leaves after := by
  obtain ⟨raw, -, -, rfl⟩ | ⟨raw, rest, -, queue, -, rfl⟩ | ⟨e, rest, -, queue, -, rfl⟩ |
    ⟨-, -, -, -, rfl⟩ := next_cases h
  · exact ⟨rfl, rfl, rfl, rfl, List.Subset.refl _, rfl⟩
  · exact ⟨rfl, rfl, rfl, rfl, queue ▸ List.subset_cons_self _ rest, rfl⟩
  · exact ⟨rfl, rfl, rfl, rfl, queue ▸ List.subset_cons_self _ rest, rfl⟩
  · exact ⟨rfl, rfl, rfl, rfl, List.Subset.refl _, rfl⟩

/-- Opening a stream is no matter for the task. -/
theorem leaves_opened {heard : Option Message × Flow}
    (h : stream.flow.receive? = some heard) :
    stream.Leaves (stream.opened heard.1 heard.2).2 := by
  obtain ⟨raw, rest, queue, same⟩ | ⟨e, rest, queue, same⟩ | ⟨-, -, same⟩ := opened_cases h <;>
    rw [same]
  · exact ⟨rfl, rfl, rfl, rfl, queue ▸ List.subset_cons_self _ rest, rfl⟩
  · exact ⟨rfl, rfl, rfl, rfl, queue ▸ List.subset_cons_self _ rest, rfl⟩
  · exact ⟨rfl, rfl, rfl, rfl, List.Subset.refl _, rfl⟩

/-- A call of `next` returns what was forecast for it, and then there is one result less. -/
theorem forecast_next {result : Except QueryError (Option Row)} {after : RowStream}
    (h : stream.next? = some (result, after)) :
    result = stream.forecast 0 ∧ ∀ k, after.forecast k = stream.forecast (k + 1) := by
  obtain ⟨raw, kept, rfl, rfl⟩ | ⟨raw, rest, waiting, queue, rfl, rfl⟩ |
    ⟨e, rest, waiting, queue, rfl, rfl⟩ | ⟨waiting, queue, atEnd, rfl, rfl⟩ := next_cases h
  · simp [forecast, upcoming, kept]
  · simp [forecast, upcoming, waiting, Flow.pending, queue, Message.result, Flow.isDoomed]
  · simp [forecast, upcoming, waiting, Flow.pending, queue, Message.result, Flow.isDoomed]
  · -- at the end a crash is told of once, and from then on there is nothing
    obtain ⟨pending, doomed⟩ := Flow.pending_of_isOver atEnd queue
    cases joined : stream.joined <;> cases crashed : stream.flow.isCrashed <;>
      simp [join, forecast, upcoming, waiting, pending, doomed, joined, crashed, Except.map]

/-- Opening a stream takes nothing off it, and fails with what the first call of `next` would
return. -/
theorem forecast_opened {heard : Option Message × Flow} (unopened : stream.first = none)
    (h : stream.flow.receive? = some heard) :
    ((stream.opened heard.1 heard.2).1 = .ok () ∧
        (stream.opened heard.1 heard.2).2.forecast = stream.forecast ∧
        ∀ e, stream.forecast 0 ≠ .error e) ∨
      ∃ e, (stream.opened heard.1 heard.2).1 = .error e ∧ stream.forecast 0 = .error e := by
  obtain ⟨raw, rest, queue, same⟩ | ⟨e, rest, queue, same⟩ | ⟨queue, atEnd, same⟩ :=
    opened_cases h <;> rw [same]
  · refine .inl ⟨rfl, ?_, ?_⟩
    · funext k
      simp [forecast, upcoming, unopened, Flow.pending, queue, Message.result, Flow.isDoomed]
    · simp [forecast, upcoming, unopened, Flow.pending, queue, Message.result]
  · refine .inr ⟨e, rfl, ?_⟩
    simp [forecast, upcoming, unopened, Flow.pending, queue, Message.result]
  · -- without a row, the stream is open unless the task has been brought down
    obtain ⟨pending, doomed⟩ := Flow.pending_of_isOver atEnd queue
    cases failed : !stream.joined && stream.flow.isCrashed
    · refine .inl ⟨?_, ?_, ?_⟩
      · simp [join, failed]
      · funext k
        simp only [Bool.and_eq_false_imp, Bool.not_eq_true'] at failed
        cases joined : stream.joined <;> simp_all [join, forecast, upcoming]
      · simp [forecast, upcoming, unopened, pending, doomed, failed]
    · refine .inr ⟨.store .taskFailed, ?_, ?_⟩
      · simp [join, failed]
      · simp [forecast, upcoming, unopened, pending, doomed, failed]

/-- What comes after the rows of a query is its end, once. -/
theorem getD_rows_append {rows : List RawRow} {columns : List OutputColumn}
    {rest : List (Except QueryError (Option Row))} {ending : Ending}
    (tail : ∀ k, rest[k]?.getD (.ok none) =
      if k = 0 then ending.result.map fun _ => none else .ok none) (k : Nat) :
    (((rows.map fun raw => Except.ok (some (Row.ofRaw columns raw))) ++ rest)[k]?).getD (.ok none) =
      Response.result { rows, ending } columns k := by
  unfold Response.result
  rcases Nat.lt_or_ge k rows.length with within | beyond
  · rw [List.getElem?_append_left (by simpa using within)]
    simp [within]
  · rw [List.getElem?_append_right (by simpa using beyond), List.length_map, tail,
      List.getElem?_eq_none beyond]
    simp only [Nat.sub_eq_zero_iff_le]
    by_cases last : k = rows.length
    · simp [last]
    · have more : ¬k ≤ rows.length := by omega
      simp [last, more]

/-- A stream on a query that has just been started will give the results of its response. -/
theorem forecast_start (columns : List OutputColumn) (capacity : Nat) (response : Response) :
    (ofUnopened columns (.start capacity response)).forecast = response.result columns := by
  funext k
  obtain ⟨rows, affected, ending⟩ := response
  have tail : ∀ k, (ending.messages.map (Message.result columns) ++
      if ending.isCrash then [Except.error (.store .taskFailed)] else [])[k]?.getD (.ok none) =
        if k = 0 then ending.result.map fun _ => none else .ok none := by
    rintro (_ | k) <;> cases ending <;>
      simp [Ending.messages, Ending.isCrash, Ending.result, Message.result, Except.map]
  have rows_map : (rows.map (Except.ok (ε := QueryError))).map (Message.result columns) =
      rows.map fun raw => Except.ok (some (Row.ofRaw columns raw)) := by
    simp [Message.result]
  simp only [forecast, upcoming, ofUnopened, Flow.start, Flow.pending, Flow.isDoomed,
    Option.toList_none, List.map_nil, List.nil_append, List.map_append, rows_map, Bool.not_false,
    Bool.true_and, List.append_assoc]
  exact getD_rows_append tail k

/-- A stream on a query that ended before it was started will give that end. -/
theorem forecast_ended (columns : List OutputColumn) (capacity : Nat) (ending : Ending) :
    (ofUnopened columns (.ended capacity ending)).forecast =
      Response.result { ending } columns := by
  funext k
  cases k <;> cases ending <;>
    simp [forecast, upcoming, ofUnopened, Flow.ended, Flow.pending, Flow.isDoomed, Task.after,
      Response.result, Message.result, Ending.result, Except.map]

end RowStream

end TypedQuery
