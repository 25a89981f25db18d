import TypedQuery.Proofs.Engine.Release

/-!
# How far a query is ahead of its reader

While the reader listens, every row of a query is in one place: the reader has taken it, it is in
the queue, the task waits with it in hand, or it has not been handed over yet (`Reading.Counts`).
The queue is bounded, so the query is never further ahead of its reader than the queue is long and
one row more; and when the task takes no step, it has either put everything into the queue and let
go of its connection, or the queue is full of rows and it waits with the next one in hand.
-/

namespace TypedQuery

/-- Whether a message is a row. -/
def Message.isRow : Message → Bool
  | .ok _ => true
  | .error _ => false

namespace Flow

/-- The number of rows in the queue. -/
def queuedRows (flow : Flow) : Nat :=
  flow.queue.countP Message.isRow

/-- The number of rows that the task waits with. -/
def inHand (flow : Flow) : Nat :=
  match flow.task with
  | .offering _ => 1
  | .querying | .reporting _ | .done | .crashed => 0

variable {flow next : Flow}

/-- A step of the task loses no row while the reader listens. -/
theorem rows_advance (h : flow.advance? = some next) (hears : flow.listening = true) :
    next.queuedRows + next.inHand + next.unsent.length =
      flow.queuedRows + flow.inHand + flow.unsent.length := by
  obtain ⟨row, rest, task, unsent, rfl⟩ | ⟨task, unsent, rfl⟩ | ⟨row, task, -, -, rfl⟩ |
    ⟨e, task, -, -, rfl⟩ | ⟨-, deaf, -⟩ := advance_cases h
  · simp only [queuedRows, inHand, task, unsent, List.length_cons]
    omega
  · cases ending : flow.ending <;> simp [queuedRows, inHand, task, unsent, Task.after]
  · simp [queuedRows, inHand, task, List.countP_append, Message.isRow]
  · simp [queuedRows, inHand, task, List.countP_append, Message.isRow]
  · simp [hears] at deaf

/-- The task puts a message into the queue only if there is room. -/
theorem length_queue_advance (h : flow.advance? = some next)
    (room : flow.queue.length ≤ flow.capacity) : next.queue.length ≤ next.capacity := by
  obtain ⟨row, rest, -, -, rfl⟩ | ⟨-, -, rfl⟩ | ⟨row, -, -, more, rfl⟩ | ⟨e, -, -, more, rfl⟩ |
    ⟨-, -, rfl⟩ := advance_cases h
  · exact room
  · exact room
  · rw [List.length_append, List.length_singleton]
    exact of_decide_eq_true more
  · rw [List.length_append, List.length_singleton]
    exact of_decide_eq_true more
  · exact room

/-- A task that lets go of its connection while the reader listens has no row left. -/
theorem unsent_advance (h : flow.advance? = some next) (hears : flow.listening = true)
    (drained : flow.holds = false → flow.unsent = []) (gone : next.holds = false) :
    next.unsent = [] := by
  obtain ⟨row, rest, -, -, rfl⟩ | ⟨-, unsent, rfl⟩ | ⟨row, -, -, -, rfl⟩ | ⟨e, task, -, -, rfl⟩ |
    ⟨-, deaf, -⟩ := advance_cases h
  · simp [holds] at gone
  · exact unsent
  · simp [holds] at gone
  · exact drained (by simp [holds, task])
  · simp [hears] at deaf

end Flow

/-- Whether the caller has an open stream that it still reads. -/
def Reader.IsOpen : Reader → Prop
  | .idle | .collecting _ | .looking => True
  | .opening | .refused _ | .closing _ | .done _ => False

namespace Reading

/-- The rows that the queue has accepted so far: the reader has taken them, or they are in it. -/
def accepted (reading : Reading) : Nat :=
  reading.stream.received + reading.stream.flow.queuedRows

/-- The rows that the query has handed over so far. -/
def pulled (reading : Reading) : Nat :=
  reading.response.rows.length - reading.stream.flow.unsent.length

/-- Where the rows of a query are. -/
structure Counts (reading : Reading) : Prop where
  room : reading.stream.flow.queue.length ≤ reading.stream.flow.capacity
  rows : reading.stream.flow.listening = true →
    reading.accepted + reading.stream.flow.inHand + reading.stream.flow.unsent.length =
      reading.response.rows.length
  drained : reading.stream.flow.listening = true →
    reading.stream.flow.holds = false → reading.stream.flow.unsent = []
  unopened : reading.reader = .opening →
    reading.stream.received = 0 ∧ reading.stream.first = none
  received : reading.reader.IsOpen →
    reading.stream.received = min reading.response.rows.length (max 1 reading.given.length)
  first : reading.reader.IsOpen →
    (reading.stream.first.isSome = true ↔ reading.given = [] ∧ reading.response.rows ≠ [])

variable {reading after : Reading}

/-- The rows of a query that has just been started are all still to come. -/
theorem counts_start (buffer : Nat) (purpose : Purpose) (columns : List OutputColumn)
    (supply : Supply) (response : Response) :
    (start buffer purpose columns supply response).Counts := by
  refine ⟨?_, fun _ => ?_, fun _ gone => ?_, fun _ => ⟨rfl, rfl⟩, False.elim, False.elim⟩
  · cases supply <;> exact Nat.zero_le _
  · cases supply with
    | refused ending =>
      cases ending <;>
        simp [start, accepted, RowStream.ofUnopened, Flow.ended, Flow.queuedRows, Flow.inHand,
          Task.after]
    | own | lent =>
      simp [start, accepted, RowStream.ofUnopened, Flow.start, Flow.queuedRows, Flow.inHand]
  · cases supply with
    | refused ending => rfl
    | own | lent => simp [start, RowStream.ofUnopened, Flow.start, Flow.holds] at gone

/-- A step of the task keeps the counts. -/
theorem Counts.withFlow {flow : Flow} (counts : reading.Counts)
    (h : reading.stream.flow.advance? = some flow) : (reading.withFlow flow).Counts where
  room := Flow.length_queue_advance h counts.room
  rows hears := by
    have before : reading.stream.flow.listening = true := (Flow.keeps_advance h).1 ▸ hears
    have same := Flow.rows_advance h before
    have all := counts.rows before
    simp only [accepted, Reading.withFlow] at all ⊢
    omega
  drained hears gone := by
    have before : reading.stream.flow.listening = true := (Flow.keeps_advance h).1 ▸ hears
    exact Flow.unsent_advance h before (counts.drained before) gone
  unopened := counts.unopened
  received := counts.received
  first := counts.first

/-- A reader that does not listen has no counts to keep but that of the queue. -/
theorem Counts.of_deaf (deaf : reading.stream.flow.listening = false)
    (room : reading.stream.flow.queue.length ≤ reading.stream.flow.capacity)
    (silent : ¬reading.reader.Listens) : reading.Counts where
  room := room
  rows hears := by simp [deaf] at hears
  drained hears := by simp [deaf] at hears
  unopened waits := by simp [waits, Reader.Listens] at silent
  received reads := by
    cases reader : reading.reader <;> simp_all [Reader.IsOpen, Reader.Listens]
  first reads := by
    cases reader : reading.reader <;> simp_all [Reader.IsOpen, Reader.Listens]

/-- A reader that has stopped listening has no counts to keep. -/
theorem counts_hangUp (stream : RowStream) (reader : Reader)
    (given : List (Except QueryError (Option Row))) (silent : ¬reader.Listens) :
    Counts { reading with stream := stream.hangUp, reader, given } :=
  .of_deaf rfl (Nat.zero_le _) silent

/-- A queue has room for what is left when its first message was taken. -/
theorem Counts.room_rest {message : Message} {rest : List Message} (counts : reading.Counts)
    (queue : reading.stream.flow.queue = message :: rest) :
    rest.length ≤ reading.stream.flow.capacity := by
  have room := counts.room
  rw [queue, List.length_cons] at room
  exact Nat.le_of_succ_le room

/-- A caller that has taken the first row, or found that there is none, keeps the counts. -/
theorem Counts.afterOpening {heard : Option Message × Flow} (counts : reading.Counts)
    (sound : reading.Sound) (waits : reading.reader = .opening)
    (h : reading.stream.flow.receive? = some heard) : (reading.afterOpening heard).Counts := by
  obtain ⟨none, unopened⟩ := counts.unopened waits
  have nothing : reading.given = [] := by simpa [Reader.Accords, waits] using sound.accords
  have hears : reading.stream.flow.listening = true := sound.listens.1 (by rw [waits]; trivial)
  have all := counts.rows hears
  have room := counts.room
  unfold Reading.afterOpening
  obtain ⟨raw, rest, queue, same⟩ | ⟨e, rest, queue, same⟩ | ⟨queue, atEnd, same⟩ :=
    RowStream.opened_cases h
  · rw [same]
    simp only [accepted, Flow.queuedRows, none, queue, List.countP_cons, Message.isRow,
      if_true] at all
    have some : reading.response.rows ≠ [] := by
      intro empty
      rw [empty] at all
      simp at all
    refine ⟨?_, fun _ => ?_, counts.drained, ?_, fun _ => ?_, fun _ => ?_⟩
    · exact counts.room_rest queue
    · simp only [accepted, Flow.queuedRows, Flow.inHand] at all ⊢
      omega
    · cases reading.purpose <;> simp [opened]
    · have positive := List.length_pos_of_ne_nil some
      simp only [nothing, List.length_nil]
      omega
    · simp [nothing, some]
  · rw [same]
    exact counts_hangUp _ _ _ id
  · -- the task has ended and nothing is queued, so there was no row at all
    rw [same]
    have drained := counts.drained hears (Flow.holds_of_isOver atEnd)
    have empty : reading.response.rows = [] := by
      have idle : reading.stream.flow.inHand = 0 := by
        cases task : reading.stream.flow.task <;> simp_all [Flow.inHand, Flow.isOver]
      simpa [accepted, Flow.queuedRows, none, queue, idle, drained] using all.symm
    cases joined : reading.stream.join.1 with
    | ok _ =>
      have kept : reading.stream.join = (.ok (), reading.stream.join.2) := Prod.ext joined rfl
      rw [kept]
      refine ⟨room, fun _ => all, fun _ => counts.drained hears, ?_, fun _ => ?_, fun _ => ?_⟩
      · cases reading.purpose <;> simp [opened]
      · simp [RowStream.join, none, empty]
      · simp [RowStream.join, unopened, empty]
    | error e =>
      have kept : reading.stream.join = (.error e, reading.stream.join.2) := Prod.ext joined rfl
      rw [kept]
      exact counts_hangUp _ _ _ id

/-- A caller that is given one more result and reads on keeps the counts. -/
theorem Counts.give {result : Except QueryError (Option Row)} {stream : RowStream} {reader : Reader}
    (counts : reading.Counts) (sound : reading.Sound) (reads : reading.reader.IsOpen)
    (still : reader.IsOpen) (h : reading.stream.next? = some (result, stream)) :
    Counts { reading with stream, reader, given := reading.given ++ [result] } := by
  have listens : reading.reader.Listens := by
    cases reader : reading.reader <;> simp_all [Reader.IsOpen, Reader.Listens]
  have all := counts.rows (sound.listens.1 listens)
  have room := counts.room
  have drained := counts.drained
  have received := counts.received reads
  have first := counts.first reads
  have unopened : reader ≠ .opening := by rintro rfl; exact still
  have here := (sound.next listens h).1
  -- a result is a row as long as there are rows that were not given
  have row : (∃ row, result = .ok (some row)) ↔
      reading.given.length < reading.response.rows.length := by
    rw [here]
    exact Response.exists_result_eq_row
  have more : ∀ kept : Option RawRow, kept = none →
      (kept.isSome = true ↔ reading.given ++ [result] = [] ∧ reading.response.rows ≠ []) := by
    simp
  obtain ⟨raw, kept, -, rfl⟩ | ⟨raw, rest, waiting, queue, same, rfl⟩ |
    ⟨e, rest, waiting, queue, same, rfl⟩ | ⟨waiting, queue, atEnd, same, rfl⟩ :=
    RowStream.next_cases h
  · -- the row that the stream kept is the first that is given
    obtain ⟨nothing, some⟩ := first.1 (by simp [kept])
    refine ⟨room, fun _ => all, drained, fun waits => absurd waits unopened, fun _ => ?_, ?_⟩
    · simpa [nothing] using received
    · exact fun _ => more none rfl
  · -- a row from the queue is given after the one that was kept
    have within := row.1 ⟨_, same⟩
    have begun : 0 < reading.given.length := by
      refine List.length_pos_of_ne_nil fun nothing => ?_
      have rows : reading.response.rows ≠ [] :=
        List.ne_nil_of_length_pos (Nat.lt_of_le_of_lt (Nat.zero_le _) within)
      simp [waiting] at first
      exact rows (first nothing)
    refine ⟨?_, fun _ => ?_, drained, fun waits => absurd waits unopened, fun _ => ?_, ?_⟩
    · exact counts.room_rest queue
    · simp only [accepted, Flow.queuedRows, Flow.inHand, queue, List.countP_cons, Message.isRow,
        if_true] at all ⊢
      omega
    · simp only [List.length_append, List.length_singleton]
      omega
    · exact fun _ => more _ waiting
  · have beyond : ¬reading.given.length < reading.response.rows.length := by
      rw [← row, same]
      simp
    refine ⟨?_, fun _ => ?_, drained, fun waits => absurd waits unopened, fun _ => ?_, ?_⟩
    · exact counts.room_rest queue
    · simp only [accepted, Flow.queuedRows, Flow.inHand, queue, List.countP_cons, Message.isRow,
        Bool.false_eq_true, if_false, Nat.add_zero] at all ⊢
      exact all
    · simp only [List.length_append, List.length_singleton]
      omega
    · exact fun _ => more _ waiting
  · have beyond : ¬reading.given.length < reading.response.rows.length := by
      rw [← row, same]
      cases reading.stream.join.1 <;> simp [Except.map]
    refine ⟨room, fun _ => all, drained, fun waits => absurd waits unopened, fun _ => ?_, ?_⟩
    · simp only [List.length_append, List.length_singleton]
      exact received.trans (by omega)
    · exact fun _ => more _ waiting

/-- A step of a waiting caller keeps the counts. -/
theorem Counts.read (counts : reading.Counts) (sound : reading.Sound)
    (h : reading.read? = some after) : after.Counts := by
  obtain ⟨heard, waits, received, rfl⟩ | ⟨rows, ⟨result, stream⟩, waits, called, rfl⟩ |
    ⟨⟨result, stream⟩, waits, called, rfl⟩ | ⟨outcome, waits, -, rfl⟩ := read_cases h
  · exact counts.afterOpening sound waits received
  · have reads : reading.reader.IsOpen := by rw [waits]; trivial
    unfold afterCollecting
    split
    · exact counts.give sound reads trivial called
    · exact counts_hangUp _ _ _ id
    · exact counts_hangUp _ _ _ id
  · unfold afterLooking
    split <;> exact counts_hangUp _ _ _ id
  · have deaf : reading.stream.flow.listening = false := by
      simpa [waits, Reader.Listens] using sound.listens
    exact .of_deaf deaf counts.room id

/-- Whatever is asked of an open stream keeps the counts. -/
theorem Counts.serve {request : StreamRequest} (counts : reading.Counts) (sound : reading.Sound)
    (h : reading.serve? request = some after) : after.Counts := by
  obtain ⟨idle, ⟨⟨result, stream⟩, called, rfl⟩ | rfl | rfl | rfl⟩ := serve_cases h
  · have reads : reading.reader.IsOpen := by rw [idle]; trivial
    exact counts.give sound reads reads called
  · have reads : reading.reader.IsOpen := by rw [idle]; trivial
    exact ⟨counts.room, counts.rows, counts.drained, by simp, fun _ => counts.received reads,
      fun _ => counts.first reads⟩
  · exact counts_hangUp _ _ reading.given id
  · exact counts_hangUp _ _ reading.given id

/-- Of a query whose reader listens, the queue accepts no more rows than were taken and fit in, and
the query hands over one more at most. -/
theorem Counts.bounds (counts : reading.Counts)
    (hears : reading.stream.flow.listening = true) :
    reading.accepted ≤ reading.stream.received + reading.stream.flow.capacity ∧
      reading.pulled ≤ reading.stream.received + reading.stream.flow.capacity + 1 := by
  have rows := counts.rows hears
  have room := counts.room
  have queued : reading.stream.flow.queuedRows ≤ reading.stream.flow.queue.length :=
    List.countP_le_length
  have hand : reading.stream.flow.inHand ≤ 1 := by
    unfold Flow.inHand
    split <;> omega
  simp only [accepted, pulled] at *
  omega

/-- When the task takes no step, the queue has accepted all rows or is full, and the query holds its
connection exactly in the second case with a row in hand. -/
theorem Counts.of_stuck (counts : reading.Counts) (frees : reading.Frees)
    (hears : reading.stream.flow.listening = true)
    (stuck : reading.stream.flow.advance? = none) :
    reading.accepted = min reading.response.rows.length
        (reading.stream.received + reading.stream.flow.capacity) ∧
      (reading.holds = true ↔
        reading.stream.received + reading.stream.flow.capacity < reading.response.rows.length) := by
  have rows := counts.rows hears
  have bound := (counts.bounds hears).1
  rcases Flow.isOver_or_full stuck with atEnd | ⟨-, full, waits⟩
  · have gone := Flow.holds_of_isOver atEnd
    have drained := counts.drained hears gone
    have idle : reading.stream.flow.inHand = 0 := by
      cases task : reading.stream.flow.task <;> simp_all [Flow.inHand, Flow.isOver]
    have still : reading.holds = false := gone
    rw [drained, idle] at rows
    simp only [List.length_nil, still, Bool.false_eq_true, false_iff] at *
    omega
  · -- a task that has not ended has put nothing but rows into the queue
    have busy : reading.stream.flow.isOver = false := by
      rcases waits with ⟨row, task⟩ | ⟨e, task⟩ <;> simp [Flow.isOver, task]
    have all : reading.stream.flow.queuedRows = reading.stream.flow.queue.length := by
      refine List.countP_eq_length.2 fun message mem => ?_
      cases message with
      | ok row => rfl
      | error e => simp [frees.errors e mem] at busy
    have length : reading.stream.flow.queue.length = reading.stream.flow.capacity := by
      have room := counts.room
      simp only [Flow.hasRoom, decide_eq_false_iff_not, Nat.not_lt] at full
      omega
    have accepted : reading.accepted = reading.stream.received + reading.stream.flow.capacity := by
      rw [Reading.accepted, all, length]
    rcases waits with ⟨row, task⟩ | ⟨e, task⟩
    · have hand : reading.stream.flow.inHand = 1 := by simp [Flow.inHand, task]
      have held : reading.holds = true := by simp [holds, Flow.holds, task]
      simp only [held, true_iff]
      omega
    · have gone : reading.holds = false := by simp [holds, Flow.holds, task]
      have drained := counts.drained hears gone
      have hand : reading.stream.flow.inHand = 0 := by simp [Flow.inHand, task]
      rw [drained, hand] at rows
      simp only [List.length_nil, gone, Bool.false_eq_true, false_iff] at *
      omega

end Reading

end TypedQuery
