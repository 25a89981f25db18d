import TypedQuery.Proofs.Engine.Release

/-!
# Queries whose task goes first

The functions on streams that run let the task go as far as it can before each step of the reader
and after it. They are runs of a reading (`Reading.Runs`): the reader's own steps with as many steps
of the task in between, and they give what the caller of the reading is given. A step of the reader
that finds the end of the task leaves the task nothing to do; so it is no matter there whether the
reader stops listening before or after the task has gone on.
-/

namespace TypedQuery

namespace Flow

variable {flow : Flow}

/-- A task that waits or has ended goes nowhere. -/
theorem settle_of_stuck (stuck : flow.advance? = none) : flow.settle = flow := by
  unfold settle
  split
  · next moved => simp [stuck] at moved
  · rfl

/-- A task that has gone as far as it can waits or has ended. -/
theorem stuck_settle (flow : Flow) : flow.settle.advance? = none := by
  fun_induction settle flow with
  | case1 flow next h ih => exact ih
  | case2 flow h => exact h

/-- However far the task goes, the reader listens or does not. -/
theorem listening_settle (flow : Flow) : flow.settle.listening = flow.listening := by
  fun_induction settle flow with
  | case1 flow next h ih => exact ih.trans (keeps_advance h).1
  | case2 flow h => rfl

/-- A task that has gone as far as it can has ended if nobody listens. -/
theorem isOver_settle (deaf : flow.listening = false) : flow.settle.isOver = true := by
  rcases isOver_or_full (stuck_settle flow) with atEnd | ⟨hears, -, -⟩
  · exact atEnd
  · simp [listening_settle, deaf] at hears

/-- A task that has ended takes no step. -/
theorem stuck_of_isOver (atEnd : flow.isOver = true) : flow.advance? = none := by
  cases task : flow.task <;> simp_all [isOver, advance?]

end Flow

namespace RowStream

/-- The stream after the task has gone as far as it can. -/
def settled (stream : RowStream) : RowStream :=
  { stream with flow := stream.flow.settle }

variable {stream : RowStream}

/-- What opening a stream comes to is no matter for the task, nor is what the task does then. -/
theorem opened_settle (stream : RowStream) {heard : Option Message × Flow}
    (h : stream.flow.receive? = some heard) :
    stream.opened heard.1 heard.2.settle =
      ((stream.opened heard.1 heard.2).1, (stream.opened heard.1 heard.2).2.settled) := by
  obtain ⟨message, rest, -, rfl⟩ | ⟨-, atEnd, rfl⟩ := Flow.receive_cases h
  · cases message <;> rfl
  · simp [opened, join, settled, Flow.settle_of_stuck (Flow.stuck_of_isOver atEnd)]

/-- What `next` comes to is no matter for the task, nor is what the task does then. -/
theorem heard_settle {heard : Option Message × Flow} (h : stream.flow.receive? = some heard) :
    stream.heard heard.1 heard.2.settle =
      ((stream.heard heard.1 heard.2).1, (stream.heard heard.1 heard.2).2.settled) := by
  obtain ⟨message, rest, -, rfl⟩ | ⟨-, atEnd, rfl⟩ := Flow.receive_cases h
  · cases message <;> rfl
  · simp [RowStream.heard, join, settled, Flow.settle_of_stuck (Flow.stuck_of_isOver atEnd)]

/-- A stream that is open keeps its first row, or its task has ended without one. -/
theorem known_of_opened {heard : Option Message × Flow} (h : stream.flow.receive? = some heard)
    (opened : (stream.opened heard.1 heard.2).1 = .ok ()) :
    (stream.opened heard.1 heard.2).2.first.isSome = true ∨
      (stream.opened heard.1 heard.2).2.flow.isOver = true := by
  obtain ⟨raw, rest, -, same⟩ | ⟨e, rest, -, same⟩ | ⟨-, atEnd, same⟩ := opened_cases h
  · exact .inl (by simp [same])
  · simp [same] at opened
  · exact .inr (by simpa [same, join] using atEnd)

/-- When the task takes no step, `next` is the reader's step, and then the task goes on. -/
theorem next_eq (stuck : stream.flow.advance? = none)
    {result : Except QueryError (Option Row)} {after : RowStream}
    (h : stream.next? = some (result, after)) : stream.next = (result, after.settled) := by
  unfold next? at h
  unfold next
  cases kept : stream.first with
  | some raw =>
    simp only [kept, Option.some.injEq, Prod.mk.injEq] at h ⊢
    obtain ⟨rfl, rfl⟩ := h
    simp [settled, Flow.settle_of_stuck stuck]
  | none =>
    simp only [kept] at h ⊢
    obtain ⟨heard, received, same⟩ := Option.map_eq_some_iff.1 h
    simp only [Flow.receive, received]
    rw [heard_settle received, same]

/-- When the task takes no step, a reader may go away before or after the task goes on. -/
theorem drop_settled (stuck : stream.flow.advance? = none) :
    stream.settled.drop = stream.hangUp.settled := by
  simp [settled, drop, hangUp, Flow.close, Flow.settle_of_stuck stuck]

/-- When the task has gone as far as it can, opening a stream is the reader's step, and then the
task goes on. -/
theorem ofFlow_eq {columns : List OutputColumn} {flow : Flow} {heard : Option Message × Flow}
    (h : flow.settle.receive? = some heard) :
    ofFlow columns flow =
      match (ofUnopened columns flow.settle).opened heard.1 heard.2 with
      | (.ok (), stream) => (.ok (), stream.settled)
      | (.error e, stream) => (.error e, stream.settled.drop) := by
  have same : (ofUnopened columns flow).opened heard.1 heard.2.settle =
      (ofUnopened columns flow.settle).opened heard.1 heard.2.settle := by
    obtain ⟨_ | _ | _, _⟩ := heard <;> rfl
  simp only [ofFlow, Flow.receive, h, same]
  have settle := (ofUnopened columns flow.settle).opened_settle h
  rw [settle]
  generalize (ofUnopened columns flow.settle).opened heard.1 heard.2 = opened
  obtain ⟨_ | _, stream⟩ := opened <;> rfl

/-- A reader leaves the task where it is. -/
theorem Leaves.isOver_eq {before after : RowStream} (leaves : before.Leaves after) :
    after.flow.isOver = before.flow.isOver := by
  simp only [Flow.isOver, leaves.task]

end RowStream

namespace Reading

/-- One step of a query that is being read: of its task, of a caller that waits, or of a caller that
asks for something. -/
inductive Step (before : Reading) : Reading → Prop where
  | task {flow : Flow} :
    before.stream.flow.advance? = some flow → Step before (before.withFlow flow)
  | read {after : Reading} : before.read? = some after → Step before after
  | serve {after : Reading} (request : StreamRequest) :
    before.serve? request = some after → Step before after

/-- Any number of steps of a query. -/
def Runs : Reading → Reading → Prop :=
  Relation.ReflTransGen Step

/-- A run after which the task waits or has ended. -/
structure Reaches (before after : Reading) : Prop where
  runs : before.Runs after
  stuck : after.stream.flow.advance? = none

variable {reading middle after : Reading}

/-- A run keeps what stays the same. -/
theorem Runs.keeps (runs : reading.Runs after) : reading.Keeps after := by
  induction runs with
  | refl => exact ⟨rfl, rfl, rfl, rfl, rfl⟩
  | @tail middle after _ step ih =>
    have kept : middle.Keeps after := by
      cases step with
      | task advanced => exact keeps_withFlow advanced
      | read done => exact (leaves_read done).toKeeps
      | serve request done => exact (leaves_serve done).toKeeps
    exact ⟨kept.purpose.trans ih.purpose, kept.supply.trans ih.supply,
      kept.response.trans ih.response, kept.columns.trans ih.columns,
      kept.capacity.trans ih.capacity⟩

/-- A run keeps the invariant by which a caller is told late enough. -/
theorem Runs.frees (runs : reading.Runs after) (frees : reading.Frees) : after.Frees := by
  induction runs with
  | refl => exact frees
  | tail _ step ih =>
    cases step with
    | task advanced => exact ih.withFlow advanced
    | read done => exact ih.read done
    | serve request done => exact ih.serve done

/-- A run keeps a reading sound. -/
theorem Runs.sound (runs : reading.Runs after) (sound : reading.Sound) : after.Sound := by
  induction runs with
  | refl => exact sound
  | tail _ step ih =>
    cases step with
    | task advanced => exact ih.withFlow advanced
    | read done => exact ih.read done
    | serve request done => exact ih.serve done

/-- The task goes as far as it can. -/
theorem reaches_settle (reading : Reading) :
    reading.Reaches (reading.withFlow reading.stream.flow.settle) := by
  refine ⟨?_, Flow.stuck_settle _⟩
  generalize same : reading.stream.flow = flow
  fun_induction Flow.settle flow generalizing reading with
  | case1 flow next h ih =>
    exact .head (.task (same ▸ h)) (ih (reading.withFlow next) rfl)
  | case2 flow h =>
    rw [← same]
    exact .refl

/-- A run, a step, and then the task goes as far as it can. -/
theorem Step.reaches (step : reading.Step middle) :
    reading.Reaches (middle.withFlow middle.stream.flow.settle) :=
  have ⟨runs, stuck⟩ := reaches_settle middle
  ⟨.head step runs, stuck⟩

/-- A run and then another. -/
theorem Reaches.trans (one : reading.Reaches middle) (other : middle.Reaches after) :
    reading.Reaches after :=
  ⟨Relation.ReflTransGen.trans one.runs other.runs, other.stuck⟩

/-- Opening a stream. Once it is open, it keeps a first row, or the task has ended without one. -/
theorem reaches_opening {columns : List OutputColumn} {flow : Flow}
    (waits : reading.reader = .opening) (unopened : reading.stream = .ofUnopened columns flow)
    (room : 0 < flow.capacity) (frees : reading.Frees) :
    ∃ after, reading.Reaches after ∧ after.stream = (RowStream.ofFlow columns flow).2 ∧
      match (RowStream.ofFlow columns flow).1 with
      | .ok () => after.reader = opened reading.purpose ∧
        (after.stream.first.isSome = true ∨ after.stream.flow.isOver = true)
      | .error e => after.reader = .refused e := by
  -- the task goes as far as it can, the caller hears from it, and the task goes on
  have settle := reaches_settle reading
  generalize same : reading.withFlow reading.stream.flow.settle = settled at settle
  have stream : settled.stream = .ofUnopened columns flow.settle := by
    rw [← same]
    simp [withFlow, unopened, RowStream.ofUnopened]
  have purpose : settled.purpose = reading.purpose := settle.runs.keeps.purpose
  have waits : settled.reader = .opening := same ▸ waits
  have room : 0 < settled.stream.flow.capacity := by
    rw [settle.runs.keeps.capacity, unopened]
    exact room
  obtain ⟨heard, received⟩ := Option.isSome_iff_exists.1 (Flow.isSome_receive room settle.stuck)
  have step : settled.Step (settled.afterOpening heard) :=
    .read (by simp [read?, waits, received])
  refine ⟨_, settle.trans step.reaches, ?_⟩
  have received' : flow.settle.receive? = some heard := by
    rw [stream] at received
    exact received
  rw [RowStream.ofFlow_eq received', ← stream]
  have leaves := RowStream.leaves_opened received
  have atEnd := fun e => RowStream.isOver_opened (e := e) received (settle.runs.frees frees).errors
  have known := RowStream.known_of_opened received
  unfold afterOpening
  generalize settled.stream.opened heard.1 heard.2 = outcome at leaves atEnd known ⊢
  obtain ⟨e | _, opened⟩ := outcome
  · have atEnd : opened.flow.isOver = true := leaves.isOver_eq.trans (atEnd e rfl)
    exact ⟨(RowStream.drop_settled (Flow.stuck_of_isOver atEnd)).symm, rfl⟩
  · refine ⟨rfl, congrArg Reading.opened purpose, (known rfl).imp_right fun atEnd => ?_⟩
    show opened.flow.settle.isOver = true
    rw [Flow.settle_of_stuck (Flow.stuck_of_isOver atEnd)]
    exact atEnd

/-- A call of `next`. -/
theorem reaches_next (idle : reading.reader = .idle) (room : 0 < reading.stream.flow.capacity)
    (stuck : reading.stream.flow.advance? = none) :
    ∃ after, reading.Reaches after ∧ after.stream = reading.stream.next.2 ∧
      after.reader = .idle ∧ after.given = reading.given ++ [reading.stream.next.1] := by
  obtain ⟨⟨result, stream⟩, called⟩ := Option.isSome_iff_exists.1 (RowStream.isSome_next room stuck)
  have step : reading.Step { reading with stream, given := reading.given ++ [result] } :=
    .serve .next (by simp [serve?, idle, called])
  refine ⟨_, step.reaches, ?_⟩
  rw [RowStream.next_eq stuck called]
  exact ⟨rfl, idle, rfl⟩

/-- One step of a collecting caller, after which the task goes on. -/
theorem reaches_collecting_next {rows : List Row} (waits : reading.reader = .collecting rows)
    (room : 0 < reading.stream.flow.capacity) (stuck : reading.stream.flow.advance? = none)
    (frees : reading.Frees) {result : Except QueryError (Option Row)} {rest : RowStream}
    (h : reading.stream.next = (result, rest)) :
    ∃ after, reading.Reaches after ∧
      match result with
      | .ok (some row) => after.stream = rest ∧ after.reader = .collecting (rows ++ [row])
      | .ok none => after.stream = rest.drop ∧ after.reader = .done (.ok (.rows rows))
      | .error e => after.stream = rest.drop ∧ after.reader = .done (.error e) := by
  obtain ⟨⟨found, stream⟩, called⟩ := Option.isSome_iff_exists.1 (RowStream.isSome_next room stuck)
  obtain ⟨rfl, rfl⟩ := Prod.mk.inj ((RowStream.next_eq stuck called).symm.trans h)
  have step : reading.Step (reading.afterCollecting rows (found, stream)) :=
    .read (by simp [read?, waits, called])
  refine ⟨_, step.reaches, ?_⟩
  -- a caller that is done has found the end of the task
  have drop (last : ∀ row, found ≠ .ok (some row)) : stream.settled.drop = stream.hangUp.settled :=
    have atEnd := RowStream.isOver_next called frees.errors last
    RowStream.drop_settled
      (Flow.stuck_of_isOver ((RowStream.leaves_next called).isOver_eq.trans atEnd))
  rcases found with e | _ | row
  · exact ⟨(drop (by simp)).symm, rfl⟩
  · exact ⟨(drop (by simp)).symm, rfl⟩
  · exact ⟨rfl, rfl⟩

/-- Reading the rows that are left. -/
theorem reaches_collecting {rows : List Row} (waits : reading.reader = .collecting rows)
    (room : 0 < reading.stream.flow.capacity) (stuck : reading.stream.flow.advance? = none)
    (frees : reading.Frees) :
    ∃ after, reading.Reaches after ∧ after.stream = reading.stream.collect.2 ∧
      after.reader = .done (reading.stream.collect.1.map fun more => .rows (rows ++ more)) := by
  generalize same : reading.stream = stream
  fun_induction RowStream.collect stream generalizing reading rows with
  | case1 stream row rest h result last collected ih =>
    obtain ⟨middle, one, rfl, more⟩ := reaches_collecting_next waits room stuck frees (same ▸ h)
    obtain ⟨after, others, stream, told⟩ := ih more (one.runs.keeps.capacity ▸ room) one.stuck
      (one.runs.frees frees) rfl
    refine ⟨after, one.trans others, ?_, ?_⟩
    · rw [stream, collected]
    · rw [told, collected]
      cases result <;> simp [Except.map]
  | case2 stream rest h =>
    obtain ⟨after, reaches, stream, told⟩ :=
      reaches_collecting_next waits room stuck frees (same ▸ h)
    exact ⟨after, reaches, stream, by simpa [Except.map] using told⟩
  | case3 stream e rest h =>
    obtain ⟨after, reaches, stream, told⟩ :=
      reaches_collecting_next waits room stuck frees (same ▸ h)
    exact ⟨after, reaches, stream, told⟩

/-- Collecting an open stream. -/
theorem reaches_collect (idle : reading.reader = .idle) (room : 0 < reading.stream.flow.capacity)
    (stuck : reading.stream.flow.advance? = none) (frees : reading.Frees) :
    ∃ after, reading.Reaches after ∧ after.stream = reading.stream.collect.2 ∧
      after.reader = .done (reading.stream.collect.1.map .rows) := by
  have asked : reading.serve? .collect = some { reading with reader := .collecting [] } := by
    simp [serve?, idle]
  have waits : Reading.reader { reading with reader := .collecting [] } = .collecting [] := rfl
  obtain ⟨after, reaches, stream, told⟩ :=
    reaches_collecting waits room stuck (frees.serve asked)
  exact ⟨after, ⟨.head (.serve .collect asked) reaches.runs, reaches.stuck⟩, stream, told⟩

/-- A caller that has stopped listening waits for the end of the task. -/
theorem reaches_closing {outcome : Outcome} (waits : reading.reader = .closing outcome)
    (deaf : reading.stream.flow.listening = false) :
    ∃ after, reading.Reaches after ∧ after.stream = reading.stream.settled.join.2 ∧
      after.reader = .done (reading.stream.settled.join.1.map fun _ => outcome) := by
  have settle := reaches_settle reading
  generalize same : reading.withFlow reading.stream.flow.settle = settled at settle
  have stream : settled.stream = reading.stream.settled := by rw [← same]; rfl
  have waits : settled.reader = .closing outcome := same ▸ waits
  have atEnd : settled.stream.flow.isOver = true := by
    rw [stream]
    exact Flow.isOver_settle deaf
  have step : settled.Step (settled.afterClosing outcome) :=
    .read (by simp [read?, waits, atEnd])
  exact ⟨_, ⟨.tail settle.runs step, settle.stuck⟩, by rw [← stream]; rfl, by rw [← stream]; rfl⟩

/-- Closing an open stream. -/
theorem reaches_close (idle : reading.reader = .idle) :
    ∃ after, reading.Reaches after ∧ after.stream = reading.stream.close.2 ∧
      after.reader = .done (reading.stream.close.1.map fun _ => .closed) := by
  have step : reading.Step
      { reading with stream := reading.stream.hangUp, reader := .closing .closed } :=
    .serve .close (by simp [serve?, idle])
  have waits : Reading.reader
      { reading with stream := reading.stream.hangUp, reader := .closing .closed } =
        .closing .closed :=
    rfl
  obtain ⟨after, reaches, stream, told⟩ := reaches_closing waits rfl
  exact ⟨after, ⟨.head step reaches.runs, reaches.stuck⟩, stream, told⟩

/-- Dropping an open stream. -/
theorem reaches_drop (idle : reading.reader = .idle) :
    ∃ after, reading.Reaches after ∧ after.stream = reading.stream.drop ∧
      after.reader = .done (.ok .dropped) := by
  have step : reading.Step
      { reading with stream := reading.stream.hangUp, reader := .done (.ok .dropped) } :=
    .serve .drop (by simp [serve?, idle])
  exact ⟨_, step.reaches, rfl, rfl⟩

/-- Looking for the first row. The stream keeps it, or the task has ended without one; so it makes
no difference that the caller stops listening at once. -/
theorem reaches_looking (waits : reading.reader = .looking)
    (room : 0 < reading.stream.flow.capacity) (stuck : reading.stream.flow.advance? = none)
    (known : reading.stream.first.isSome = true ∨ reading.stream.flow.isOver = true) :
    ∃ after, reading.Reaches after ∧ after.stream = reading.stream.firstRow.2 ∧
      after.reader = .done (reading.stream.firstRow.1.map .row) := by
  obtain ⟨⟨result, stream⟩, called⟩ := Option.isSome_iff_exists.1 (RowStream.isSome_next room stuck)
  have step : reading.Step (reading.afterLooking (result, stream)) :=
    .read (by simp [read?, waits, called])
  -- the task has nothing to do before the caller stops listening
  have still : stream.flow.advance? = none := by
    rcases known with kept | atEnd
    · obtain ⟨raw, kept⟩ := Option.isSome_iff_exists.1 kept
      obtain ⟨-, rfl⟩ : _ ∧ { reading.stream with first := none } = stream := by
        simpa [RowStream.next?, kept] using called
      exact stuck
    · exact Flow.stuck_of_isOver ((RowStream.leaves_next called).isOver_eq.trans atEnd)
  unfold RowStream.firstRow
  rw [RowStream.next_eq stuck called]
  cases result with
  | error e => exact ⟨_, step.reaches, (RowStream.drop_settled still).symm, rfl⟩
  | ok row =>
    have waits : (reading.afterLooking (.ok row, stream)).reader = .closing (.row row) := rfl
    obtain ⟨after, reaches, same, told⟩ := reaches_closing waits rfl
    have close : stream.settled.close = stream.hangUp.settled.join := by
      rw [RowStream.close, RowStream.drop_settled still]
    refine ⟨after, ⟨.head step reaches.runs, reaches.stuck⟩, ?_, ?_⟩
    · simp only [close]
      exact same
    · simp only [close]
      rw [told]
      show Reader.done (Except.map _ stream.hangUp.settled.join.1) = _
      cases stream.hangUp.settled.join.1 <;> rfl

end Reading

namespace RowStream

variable {columns : List OutputColumn} {capacity : Nat}

/-- Opening a stream on a query that has just been started comes to what the response says. -/
theorem ofFlow_start (columns : List OutputColumn) (room : 0 < capacity) (response : Response) :
    (ofFlow columns (.start capacity response)).1 = response.opens := by
  have sound := Reading.sound_start capacity .stream columns (.own 0) response (by simp)
  have frees := Reading.frees_start capacity .stream columns (.own 0) response
  have unopened : (Reading.start capacity .stream columns (.own 0) response).stream =
      ofUnopened columns (.start capacity response) := rfl
  obtain ⟨after, reaches, -, told⟩ := Reading.reaches_opening rfl unopened room frees
  have same : after.response = response := reaches.runs.keeps.response
  have opens (result : Except QueryError Unit) (known : after.opening? = some result) :
      result = response.opens :=
    same ▸ (reaches.runs.sound sound).opening_eq known
  generalize ofFlow columns (.start capacity response) = outcome at told ⊢
  obtain ⟨e | _, stream⟩ := outcome
  · have refused : after.reader = .refused e := told
    exact opens _ (by simp [Reading.opening?, refused])
  · have idle : after.reader = .idle := told.1
    exact opens _ (by simp [Reading.opening?, idle])

/-- Collecting the stream on a query that has just been started comes to what the response says. -/
theorem collect_start (room : 0 < capacity) {response : Response} {stream : RowStream}
    (opened : ofFlow columns (.start capacity response) = (.ok (), stream)) :
    stream.collect.1 = response.all columns := by
  have sound := Reading.sound_start capacity .allRows columns (.own 0) response (by simp)
  have frees := Reading.frees_start capacity .allRows columns (.own 0) response
  have unopened : (Reading.start capacity .allRows columns (.own 0) response).stream =
      ofUnopened columns (.start capacity response) := rfl
  obtain ⟨middle, opening, same, told⟩ := Reading.reaches_opening rfl unopened room frees
  simp only [opened] at same told
  have waits : middle.reader = .collecting [] := told.1
  obtain ⟨after, reaches, -, told⟩ := Reading.reaches_collecting waits
    (opening.runs.keeps.capacity ▸ room) opening.stuck (opening.runs.frees frees)
  have kept := (opening.trans reaches).runs.keeps
  have response_eq : after.response = response := kept.response
  have columns_eq : after.stream.columns = columns := kept.columns
  have answered : after.collected? = some stream.collect.1 := by
    rw [← same]
    cases collected : middle.stream.collect.1 <;>
      simp [Reading.collected?, told, collected, Except.map]
  rw [← columns_eq, ← response_eq]
  exact ((opening.trans reaches).runs.sound sound).collected_eq kept.purpose answered

end RowStream

end TypedQuery
