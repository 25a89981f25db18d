import TypedQuery.Proofs.Engine.System
import TypedQuery.Proofs.Stream.Forecast

/-!
# Streams deliver what the store gave

Whatever steps are taken in an engine and in whatever order, the results that the caller of a query
is given are those of the response of the store, one by one (`Reading.result`). The invariant of a
reading says so twice: of the results that were given already, and, while the caller listens, of
those that the stream has still in store (`Reading.Sound`). The task's steps keep the second part
and a call of `next` moves one result from the second part to the first.
-/

namespace TypedQuery

namespace Reader

/-- Whether the caller may still hear from the flow. -/
def Listens : Reader → Prop
  | .opening | .idle | .collecting _ | .looking => True
  | .refused _ | .closing _ | .done _ => False

/-- What a caller does goes together with what it is after and what it was given. -/
def Accords (reader : Reader) (purpose : Purpose)
    (given : List (Except QueryError (Option Row))) : Prop :=
  match reader with
  | .opening | .refused _ => given = []
  | .idle => purpose = .stream
  | .collecting rows => purpose = .allRows → given = rows.map fun row => .ok (some row)
  | .looking => purpose = .firstRow
  | .closing _ => purpose ≠ .allRows
  | .done (.ok (.rows rows)) =>
    purpose = .allRows → given = (rows.map fun row => .ok (some row)) ++ [.ok none]
  | .done (.ok _) => purpose ≠ .allRows
  | .done (.error e) =>
    purpose = .allRows →
      ∃ rows : List Row, given = (rows.map fun row => .ok (some row)) ++ [.error e]

end Reader

namespace Reading

/-- The result of the call of `next` with some number. -/
def result (reading : Reading) (k : Nat) : Except QueryError (Option Row) :=
  reading.response.result reading.stream.columns k

/-- Whether the stream can be opened, or what comes instead. -/
def Opens (reading : Reading) : Prop :=
  match reading.reader with
  | .opening => reading.stream.first = none
  | .refused e => reading.result 0 = .error e
  | .idle | .collecting _ | .looking | .closing _ | .done _ => ∀ e, reading.result 0 ≠ .error e

/-- The invariant of a reading. -/
structure Sound (reading : Reading) : Prop where
  given : ∀ k (h : k < reading.given.length), reading.given[k] = reading.result k
  forecast : reading.stream.flow.listening = true →
    ∀ k, reading.stream.forecast k = reading.result (reading.given.length + k)
  listens : reading.reader.Listens ↔ reading.stream.flow.listening = true
  accords : reading.reader.Accords reading.purpose reading.given
  opens : reading.Opens
  refused : ∀ ending, reading.supply = .refused ending →
    ending ≠ .success ∧ reading.response.rows = [] ∧ reading.response.ending = ending

/-- What stays the same from the start of a query to its end. -/
structure Keeps (before after : Reading) : Prop where
  purpose : after.purpose = before.purpose
  supply : after.supply = before.supply
  response : after.response = before.response
  columns : after.stream.columns = before.stream.columns
  capacity : after.stream.flow.capacity = before.stream.flow.capacity

/-- A step of the task keeps what stays the same. -/
theorem keeps_withFlow {reading : Reading} {flow : Flow}
    (h : reading.stream.flow.advance? = some flow) : reading.Keeps (reading.withFlow flow) :=
  ⟨rfl, rfl, rfl, rfl, (Flow.keeps_advance h).2⟩

/-- What stays the same when only the caller takes a step. -/
structure Leaves (before after : Reading) : Prop extends Keeps before after where
  unsent : after.stream.flow.unsent = before.stream.flow.unsent
  task : after.stream.flow.task = before.stream.flow.task
  queue : after.stream.flow.queue ⊆ before.stream.flow.queue

/-- A reading whose stream has been heard is no matter for the task, whether or not the caller stops
listening. -/
theorem leaves_of_stream {reading : Reading} {stream : RowStream}
    (leaves : reading.stream.Leaves stream) (reader : Reader)
    (given : List (Except QueryError (Option Row))) :
    reading.Leaves { reading with stream, reader, given } ∧
      reading.Leaves { reading with stream := stream.hangUp, reader, given } :=
  have kept : reading.Keeps { reading with stream, reader, given } :=
    ⟨rfl, rfl, rfl, leaves.columns, leaves.capacity⟩
  ⟨⟨kept, leaves.unsent, leaves.task, leaves.queue⟩,
    ⟨⟨rfl, rfl, rfl, kept.columns, kept.capacity⟩, leaves.unsent, leaves.task,
      List.nil_subset _⟩⟩

/-- A step of a waiting caller is no matter for the task. -/
theorem leaves_read {reading after : Reading} (h : reading.read? = some after) :
    reading.Leaves after := by
  obtain ⟨heard, -, received, rfl⟩ | ⟨rows, ⟨result, stream⟩, -, called, rfl⟩ |
    ⟨⟨result, stream⟩, -, called, rfl⟩ | ⟨outcome, -, -, rfl⟩ := read_cases h
  · have leaves := RowStream.leaves_opened received
    unfold afterOpening
    generalize reading.stream.opened heard.1 heard.2 = opened at *
    obtain ⟨_ | _, stream⟩ := opened
    · exact (leaves_of_stream leaves _ _).2
    · exact (leaves_of_stream leaves _ _).1
  · have leaves := RowStream.leaves_next called
    rcases result with e | _ | row
    · exact (leaves_of_stream leaves _ _).2
    · exact (leaves_of_stream leaves _ _).2
    · exact (leaves_of_stream leaves _ _).1
  · have leaves := RowStream.leaves_next called
    rcases result with e | row <;> exact (leaves_of_stream leaves _ _).2
  · exact ⟨⟨rfl, rfl, rfl, rfl, rfl⟩, rfl, rfl, List.Subset.refl _⟩

/-- Whatever is asked of an open stream is no matter for the task. -/
theorem leaves_serve {reading after : Reading} {request : StreamRequest}
    (h : reading.serve? request = some after) : reading.Leaves after := by
  obtain ⟨-, ⟨⟨result, stream⟩, called, rfl⟩ | rfl | rfl | rfl⟩ := serve_cases h
  · exact (leaves_of_stream (RowStream.leaves_next called) _ _).1
  · exact ⟨⟨rfl, rfl, rfl, rfl, rfl⟩, rfl, rfl, List.Subset.refl _⟩
  all_goals exact ⟨⟨rfl, rfl, rfl, rfl, rfl⟩, rfl, rfl, List.nil_subset _⟩

/-- A connection is held or not whatever the caller does. -/
theorem Leaves.holds_eq {reading after : Reading} (leaves : reading.Leaves after) :
    after.holds = reading.holds := by
  simp only [holds, Flow.holds, leaves.task]

/-- A query that has just been started is sound. -/
theorem sound_start (buffer : Nat) (purpose : Purpose) (columns : List OutputColumn)
    (supply : Supply) (response : Response) (failed : supply ≠ .refused .success) :
    (start buffer purpose columns supply response).Sound where
  given := by simp [start]
  forecast := by
    intro _ k
    cases supply with
    | refused ending =>
      simpa [start, result, RowStream.ofUnopened] using
        congrFun (RowStream.forecast_ended columns buffer ending) k
    | own connection | lent connection =>
      simpa [start, result, RowStream.ofUnopened] using
        congrFun (RowStream.forecast_start columns buffer response) k
  listens := by cases supply <;> simp [start, Reader.Listens, RowStream.ofUnopened, Flow.ended,
    Flow.start]
  accords := rfl
  opens := by cases supply <;> rfl
  refused := by
    rintro ending rfl
    exact ⟨fun same => failed (same ▸ rfl), rfl, rfl⟩

section Steps

variable {reading : Reading}

/-- A step of the task keeps a reading sound. -/
theorem Sound.withFlow {flow : Flow} (sound : reading.Sound)
    (h : reading.stream.flow.advance? = some flow) : (reading.withFlow flow).Sound where
  given := sound.given
  forecast := by
    intro hears k
    have before : reading.stream.flow.listening = true := (Flow.keeps_advance h).1 ▸ hears
    have same := congrFun (RowStream.forecast_advance before h) k
    exact same.trans (sound.forecast before k)
  listens := sound.listens.trans (by rw [← (Flow.keeps_advance h).1]; rfl)
  accords := sound.accords
  opens := by
    have opens := sound.opens
    unfold Opens at opens ⊢
    exact opens
  refused := sound.refused

/-- Opening the stream keeps a reading sound. -/
theorem Sound.afterOpening {heard : Option Message × Flow} (sound : reading.Sound)
    (waits : reading.reader = .opening) (h : reading.stream.flow.receive? = some heard) :
    (reading.afterOpening heard).Sound := by
  have ⟨columns, _, _, _, _, listening⟩ := RowStream.leaves_opened h
  have hears : reading.stream.flow.listening = true :=
    sound.listens.1 (by rw [waits]; trivial)
  have unopened : reading.stream.first = none := by simpa [Opens, waits] using sound.opens
  have nothing : reading.given = [] := by simpa [Reader.Accords, waits] using sound.accords
  have forecast := sound.forecast hears
  have first : reading.stream.forecast 0 = reading.result 0 := by simpa [nothing] using forecast 0
  unfold Reading.afterOpening
  obtain ⟨ok, same, opens⟩ | ⟨e, failed, same⟩ := RowStream.forecast_opened unopened h
  · -- the first row stays in the stream, and the caller goes on as it wanted to
    generalize hopened : reading.stream.opened heard.1 heard.2 = outcome at *
    obtain ⟨answer, stream⟩ := outcome
    obtain rfl : answer = .ok () := ok
    simp only at columns listening same ⊢
    refine ⟨?_, ?_, ?_, ?_, ?_, sound.refused⟩
    · simp [nothing]
    · intro _ k
      simpa [same, result, columns] using forecast k
    · rw [listening, hears]
      cases reading.purpose <;> simp [opened, Reader.Listens]
    · cases purpose : reading.purpose <;> simp [opened, Reader.Accords, nothing]
    · rw [first] at opens
      cases purpose : reading.purpose <;> simpa [Opens, opened, result, columns] using opens
  · -- the caller is refused with the first result of the query
    generalize hopened : reading.stream.opened heard.1 heard.2 = outcome at *
    obtain ⟨answer, stream⟩ := outcome
    obtain rfl : answer = .error e := failed
    simp only at columns ⊢
    refine ⟨?_, ?_, ?_, ?_, ?_, sound.refused⟩
    · simp [nothing]
    · intro deaf
      simp [RowStream.hangUp, Flow.hangUp] at deaf
    · simp [Reader.Listens, RowStream.hangUp, Flow.hangUp]
    · simpa [Reader.Accords] using nothing
    · simpa [Opens, result, RowStream.hangUp, columns] using first.symm.trans same

/-- What a call of `next` returns is the next result of the query, and the rest is still to come. -/
theorem Sound.next {next : Except QueryError (Option Row)} {stream : RowStream}
    (sound : reading.Sound) (waits : reading.reader.Listens)
    (h : reading.stream.next? = some (next, stream)) :
    next = reading.result reading.given.length ∧
      ∀ k, stream.forecast k = reading.result (reading.given.length + 1 + k) := by
  have forecast := sound.forecast (sound.listens.1 waits)
  obtain ⟨here, later⟩ := RowStream.forecast_next h
  refine ⟨here.trans (forecast 0), fun k => ?_⟩
  rw [later, forecast, Nat.add_right_comm, Nat.add_assoc]

/-- The results that were given, and one more. -/
theorem given_append {results : List (Except QueryError (Option Row))}
    {next : Except QueryError (Option Row)} {of : Nat → Except QueryError (Option Row)}
    (given : ∀ k (h : k < results.length), results[k] = of k) (here : next = of results.length)
    (k : Nat) (h : k < (results ++ [next]).length) : (results ++ [next])[k] = of k := by
  rw [List.length_append, List.length_singleton] at h
  rcases Nat.lt_succ_iff_lt_or_eq.1 h with before | rfl
  · rw [List.getElem_append_left before]
    exact given k before
  · rw [List.getElem_concat_length rfl]
    exact here

/-- A reading stays sound when its caller is given one more result, if what the caller does then
goes together with that. -/
theorem Sound.give {next : Except QueryError (Option Row)} {stream last : RowStream}
    {reader : Reader} (sound : reading.Sound) (waits : reading.reader.Listens)
    (opens : ∀ e, reading.result 0 ≠ .error e) (h : reading.stream.next? = some (next, stream))
    (kept : (last = stream ∧ reader.Listens) ∨ (last = stream.hangUp ∧ ¬reader.Listens))
    (accords : reader.Accords reading.purpose (reading.given ++ [next]))
    (opened : reader ≠ .opening ∧ ∀ e, reader ≠ .refused e) :
    Sound { reading with stream := last, given := reading.given ++ [next], reader } := by
  obtain ⟨here, later⟩ := sound.next waits h
  have ⟨columns, _, _, _, _, listening⟩ := RowStream.leaves_next h
  have same : last.columns = reading.stream.columns := by
    rcases kept with ⟨rfl, -⟩ | ⟨rfl, -⟩ <;> exact columns
  refine ⟨?_, ?_, ?_, accords, ?_, sound.refused⟩
  · intro k within
    simpa [result, same] using given_append sound.given here k within
  · intro hears k
    rcases kept with ⟨rfl, -⟩ | ⟨rfl, -⟩
    · simpa [result, same] using later k
    · simp [RowStream.hangUp, Flow.hangUp] at hears
  · rcases kept with ⟨rfl, hears⟩ | ⟨rfl, deaf⟩
    · exact ⟨fun _ => listening ▸ sound.listens.1 waits, fun _ => hears⟩
    · simp [deaf, RowStream.hangUp, Flow.hangUp]
  · have still : ∀ e, reading.response.result last.columns 0 ≠ .error e := same ▸ opens
    cases reader <;> simp_all [Opens, result]

/-- A caller that collects keeps a reading sound. -/
theorem Sound.afterCollecting {rows : List Row}
    {next : Except QueryError (Option Row) × RowStream} (sound : reading.Sound)
    (waits : reading.reader = .collecting rows) (h : reading.stream.next? = some next) :
    (reading.afterCollecting rows next).Sound := by
  obtain ⟨next, stream⟩ := next
  have listens : reading.reader.Listens := by rw [waits]; trivial
  have opens : ∀ e, reading.result 0 ≠ .error e := by simpa [Opens, waits] using sound.opens
  have gathered : reading.purpose = .allRows →
      reading.given = rows.map fun row => .ok (some row) := by
    simpa [Reader.Accords, waits] using sound.accords
  unfold Reading.afterCollecting
  rcases next with e | _ | row
  · refine sound.give listens opens h (.inr ⟨rfl, id⟩) ?_ (by simp)
    exact fun all => ⟨rows, by rw [gathered all]⟩
  · refine sound.give listens opens h (.inr ⟨rfl, id⟩) ?_ (by simp)
    exact fun all => by rw [gathered all]
  · refine sound.give listens opens h (.inl ⟨rfl, trivial⟩) ?_ (by simp)
    exact fun all => by simp [gathered all]

/-- A caller that wants one row keeps a reading sound. -/
theorem Sound.afterLooking {next : Except QueryError (Option Row) × RowStream}
    (sound : reading.Sound) (waits : reading.reader = .looking)
    (h : reading.stream.next? = some next) : (reading.afterLooking next).Sound := by
  obtain ⟨next, stream⟩ := next
  have listens : reading.reader.Listens := by rw [waits]; trivial
  have opens : ∀ e, reading.result 0 ≠ .error e := by simpa [Opens, waits] using sound.opens
  have one : reading.purpose = .firstRow := by simpa [Reader.Accords, waits] using sound.accords
  unfold Reading.afterLooking
  rcases next with e | row
  · refine sound.give listens opens h (.inr ⟨rfl, id⟩) ?_ (by simp)
    simp [Reader.Accords, one]
  · refine sound.give listens opens h (.inr ⟨rfl, id⟩) ?_ (by simp)
    simp [Reader.Accords, one]

/-- A reading stays sound when its caller stops listening, or has stopped before. -/
theorem Sound.deafen {stream : RowStream} {reader : Reader} (sound : reading.Sound)
    (columns : stream.columns = reading.stream.columns)
    (deaf : stream.flow.listening = false)
    (opens : ∀ e, reading.result 0 ≠ .error e) (silent : ¬reader.Listens)
    (accords : reader.Accords reading.purpose reading.given)
    (opened : ∀ e, reader ≠ .refused e) : Sound { reading with stream, reader } := by
  have still : ∀ e, reading.response.result stream.columns 0 ≠ .error e := columns ▸ opens
  refine ⟨?_, fun hears => by simp [deaf] at hears, by simp [silent, deaf], accords, ?_,
    sound.refused⟩
  · simpa [result, columns] using sound.given
  · cases reader <;> simp_all [Opens, result, Reader.Listens]

/-- The end of a close keeps a reading sound. -/
theorem Sound.afterClosing {outcome : Outcome} (sound : reading.Sound)
    (waits : reading.reader = .closing outcome) : (reading.afterClosing outcome).Sound := by
  have deaf : reading.stream.flow.listening = false := by
    simpa [waits, Reader.Listens] using sound.listens
  have opens : ∀ e, reading.result 0 ≠ .error e := by simpa [Opens, waits] using sound.opens
  have some : reading.purpose ≠ .allRows := by simpa [Reader.Accords, waits] using sound.accords
  refine sound.deafen rfl (by simp [RowStream.join, deaf]) opens id ?_ (by simp)
  generalize reading.stream.join.1 = ended
  cases ended with
  | ok _ => cases outcome <;> simp [Except.map, Reader.Accords, some]
  | error e => simp [Except.map, Reader.Accords, some]

/-- Every step of a caller that waits keeps a reading sound. -/
theorem Sound.read {after : Reading} (sound : reading.Sound)
    (h : reading.read? = some after) : after.Sound := by
  obtain ⟨heard, waits, received, rfl⟩ | ⟨rows, next, waits, called, rfl⟩ |
    ⟨next, waits, called, rfl⟩ | ⟨outcome, waits, -, rfl⟩ := read_cases h
  · exact sound.afterOpening waits received
  · exact sound.afterCollecting waits called
  · exact sound.afterLooking waits called
  · exact sound.afterClosing waits

/-- Whatever is asked of an open stream keeps a reading sound. -/
theorem Sound.serve {after : Reading} {request : StreamRequest} (sound : reading.Sound)
    (h : reading.serve? request = some after) : after.Sound := by
  obtain ⟨idle, done⟩ := serve_cases h
  have listens : reading.reader.Listens := by rw [idle]; trivial
  have opens : ∀ e, reading.result 0 ≠ .error e := by simpa [Opens, idle] using sound.opens
  have own : reading.purpose = .stream := by simpa [Reader.Accords, idle] using sound.accords
  obtain ⟨⟨next, stream⟩, called, rfl⟩ | rfl | rfl | rfl := done
  · have still : Reader.idle.Accords reading.purpose (reading.given ++ [next]) := own
    have hears : Reader.idle.Listens := trivial
    have kept := sound.give listens opens called (.inl ⟨rfl, hears⟩) still (by simp)
    simpa [← idle] using kept
  · refine ⟨sound.given, sound.forecast, ?_, ?_, opens, sound.refused⟩
    · exact ⟨fun _ => sound.listens.1 listens, fun _ => trivial⟩
    simp [Reader.Accords, own]
  · refine sound.deafen rfl (by simp [RowStream.hangUp, Flow.hangUp]) opens id ?_ (by simp)
    simp [Reader.Accords, own]
  · refine sound.deafen rfl (by simp [RowStream.hangUp, Flow.hangUp]) opens id ?_ (by simp)
    simp [Reader.Accords, own]

end Steps

end Reading

end TypedQuery
