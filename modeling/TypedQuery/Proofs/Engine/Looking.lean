import TypedQuery.Proofs.Engine.Backlog
import TypedQuery.Proofs.Engine.Operations

/-!
# Looking for the first row

A caller that wants one row takes the first one, stops listening and waits for the end of the task.
By then the task may have ended, be about to fail, or wait for room in the queue; it makes no
difference unless the query brings the task down (`Response.Finds`). A query with no other row comes
to its end whether or not anybody listens, so that its crash is always told of
(`Flow.Crashes`). A query with more rows may have come to its end before the caller stopped
listening, or be stopped at the next row: this is the one place where the order of the steps shows.
-/

namespace TypedQuery

/-- What looking for the first row of a query may come to: without a row, the end of the query; with
one, that row, unless there is no other and the query brings its task down; and a crash after more
rows is told of if it came early enough. -/
def Response.Finds (response : Response) (columns : List OutputColumn)
    (answer : Except QueryError (Option Row)) : Prop :=
  match response.rows with
  | [] => answer = response.ending.result.map fun _ => none
  | raw :: rest =>
    (answer = .ok (some (Row.ofRaw columns raw)) ∧ ¬(rest = [] ∧ response.ending = .crash)) ∨
      (answer = .error (.store .taskFailed) ∧ response.ending = .crash)

namespace Response

variable {response : Response} {columns : List OutputColumn} {raw : RawRow} {rest : List RawRow}
  {answer : Except QueryError (Option Row)}

/-- Without a row, the end of the query is found. -/
theorem Finds.of_no_row (finds : response.Finds columns answer) (rows : response.rows = []) :
    answer = response.ending.result.map fun _ => none := by
  simpa [Finds, rows] using finds

/-- The first row is found if the query does not bring its task down. -/
theorem Finds.of_ending (finds : response.Finds columns answer) (rows : response.rows = raw :: rest)
    (fine : response.ending ≠ .crash) : answer = .ok (some (Row.ofRaw columns raw)) := by
  simpa [Finds, rows, fine] using finds

/-- If the query brings its task down, the crash is found, or the first of several rows. -/
theorem Finds.of_crash (finds : response.Finds columns answer) (rows : response.rows = raw :: rest)
    (crash : response.ending = .crash) :
    answer = .error (.store .taskFailed) ∨
      (rest ≠ [] ∧ answer = .ok (some (Row.ofRaw columns raw))) := by
  simp only [Finds, rows, crash, and_true] at finds
  exact finds.symm.imp_right And.symm

/-- If all rows can be collected, the first of them is found. -/
theorem Finds.of_all {all : List Row} (finds : response.Finds columns answer)
    (collected : response.all columns = .ok all) : answer = .ok all.head? := by
  have success : response.ending = .success := by
    cases ending : response.ending <;> simp_all [Response.all, Ending.result, Except.map]
  obtain rfl : response.rows.map (Row.ofRaw columns) = all := by
    simpa [Response.all, success, Ending.result, Except.map] using collected
  cases rows : response.rows with
  | nil => simpa [success, Ending.result, Except.map] using finds.of_no_row rows
  | cons raw rest => simpa using finds.of_ending rows (by simp [success])

end Response

namespace Flow

/-- Whether the query has no other row to hand over and has brought its task down or will. -/
structure Crashes (flow : Flow) : Prop where
  doomed : flow.isDoomed = true
  idle : flow.inHand = 0
  unsent : flow.unsent = []

variable {flow next : Flow}

/-- A query that has no other row to hand over brings its task down, whether or not anybody
listens. -/
theorem Crashes.advance (crashes : flow.Crashes) (h : flow.advance? = some next) :
    next.Crashes := by
  obtain ⟨doomed, idle, unsent⟩ := crashes
  obtain ⟨row, rest, -, more, -⟩ | ⟨task, -, rfl⟩ | ⟨row, task, -⟩ | ⟨e, task, -⟩ |
    ⟨⟨row, task⟩ | ⟨e, task⟩, -⟩ := advance_cases h
  · simp [unsent] at more
  · have crash : flow.ending = .crash := by
      cases ending : flow.ending <;> simp_all [isDoomed, Ending.isCrash]
    exact ⟨by simp [isDoomed, crash, Task.after], by simp [inHand, crash, Task.after], unsent⟩
  · simp [inHand, task] at idle
  · simp [isDoomed, task] at doomed
  · simp [inHand, task] at idle
  · simp [isDoomed, task] at doomed

/-- No step of the task makes a crash out of another end. -/
theorem isDoomed_of_advance (h : flow.advance? = some next) (doomed : next.isDoomed = true) :
    flow.isDoomed = true := by
  cases hears : flow.listening with
  | true => exact (pending_advance hears h).2 ▸ doomed
  | false =>
    obtain ⟨row, rest, task, -, rfl⟩ | ⟨task, -, rfl⟩ | ⟨row, -, listens, -⟩ |
      ⟨e, -, listens, -⟩ | ⟨-, -, rfl⟩ := advance_cases h
    · simpa [isDoomed, task] using doomed
    · cases ending : flow.ending <;> simp_all [isDoomed, Task.after, Ending.isCrash]
    · simp [hears] at listens
    · simp [hears] at listens
    · simp [isDoomed] at doomed

/-- A task that has ended and crashes has crashed. -/
theorem Crashes.isCrashed (crashes : flow.Crashes) (atEnd : flow.isOver = true) :
    flow.isCrashed = true := by
  have doomed := crashes.doomed
  cases task : flow.task <;> simp_all [isOver, isDoomed, Flow.isCrashed]

end Flow

namespace RowStream

variable {stream after : RowStream}

/-- A reader that hears from the flow leaves what will become of the task as it is. -/
theorem isDoomed_next {result : Except QueryError (Option Row)}
    (h : stream.next? = some (result, after)) : after.flow.isDoomed = stream.flow.isDoomed := by
  obtain ⟨raw, -, -, rfl⟩ | ⟨raw, rest, -, -, -, rfl⟩ | ⟨e, rest, -, -, -, rfl⟩ |
    ⟨-, -, -, -, rfl⟩ := next_cases h <;> rfl

/-- So does a reader that opens the stream. -/
theorem isDoomed_opened {heard : Option Message × Flow} (h : stream.flow.receive? = some heard) :
    (stream.opened heard.1 heard.2).2.flow.isDoomed = stream.flow.isDoomed := by
  obtain ⟨raw, rest, -, same⟩ | ⟨e, rest, -, same⟩ | ⟨-, -, same⟩ := opened_cases h <;>
    rw [same] <;> rfl

/-- A reader that is given a row does not look at the end of the task. -/
theorem joined_next {row : Row} (h : stream.next? = some (.ok (some row), after)) :
    after.joined = stream.joined := by
  obtain ⟨raw, -, -, rfl⟩ | ⟨raw, rest, -, -, -, rfl⟩ | ⟨e, rest, -, -, -, rfl⟩ |
    ⟨-, -, -, same, -⟩ := next_cases h
  · rfl
  · rfl
  · rfl
  · cases joined : stream.join.1 <;> simp [joined, Except.map] at same

/-- A stream that is opened without looking at the end of the task keeps its first row. -/
theorem joined_opened {heard : Option Message × Flow} (h : stream.flow.receive? = some heard)
    (opened : (stream.opened heard.1 heard.2).1 = .ok ()) (unjoined : stream.joined = false)
    (joined : (stream.opened heard.1 heard.2).2.joined = true) :
    (stream.opened heard.1 heard.2).2.first = stream.first := by
  obtain ⟨raw, rest, -, same⟩ | ⟨e, rest, -, same⟩ | ⟨-, -, same⟩ := opened_cases h
  · simp [same, unjoined] at joined
  · simp [same] at opened
  · rw [same]
    rfl

end RowStream

namespace Reading

/-- What is known of a caller that looks for the first row, by what it does. -/
def Expects (reading : Reading) : Prop :=
  match reading.reader with
  | .opening => reading.stream.joined = false
  | .refused _ => True
  | .looking =>
    reading.given = [] ∧ (reading.stream.joined = true → reading.response.rows = [])
  | .closing outcome => ∃ row, outcome = .row row ∧ reading.given = [.ok row] ∧
    (reading.response.rows.length = 1 → reading.response.ending = .crash →
      reading.stream.joined = false ∧ reading.stream.flow.Crashes)
  | .done (.ok outcome) => ∃ row, outcome = .row row ∧ reading.given = [.ok row] ∧
    ¬(reading.response.rows.length = 1 ∧ reading.response.ending = .crash)
  | .done (.error e) => e = .store .taskFailed ∧ reading.response.ending = .crash
  | .idle | .collecting _ => False

/-- The invariant of a caller that looks for the first row. -/
structure Looks (reading : Reading) : Prop where
  sound : reading.Sound
  counts : reading.Counts
  purpose : reading.purpose = .firstRow
  doomed : reading.stream.flow.isDoomed = true → reading.response.ending = .crash
  lasts : reading.stream.flow.listening = true → reading.response.ending = .crash →
    reading.stream.flow.isDoomed = true
  expects : reading.Expects

variable {reading after : Reading}

/-- A caller that looks for the first row starts like this. -/
theorem looks_start (buffer : Nat) (columns : List OutputColumn) (supply : Supply)
    (response : Response) (failed : supply ≠ .refused .success) :
    (start buffer .firstRow columns supply response).Looks where
  sound := sound_start _ _ _ _ _ failed
  counts := counts_start _ _ _ _ _
  purpose := rfl
  doomed := by
    cases supply with
    | refused ending =>
      cases ending <;> simp [start, RowStream.ofUnopened, Flow.ended, Flow.isDoomed, Task.after]
    | own | lent =>
      cases ending : response.ending <;>
        simp [start, RowStream.ofUnopened, Flow.start, Flow.isDoomed, Ending.isCrash, ending]
  lasts := by
    cases supply with
    | refused ending =>
      rintro - rfl
      rfl
    | own | lent =>
      intro _ crash
      have crash : response.ending = .crash := crash
      simp [start, RowStream.ofUnopened, Flow.start, Flow.isDoomed, Ending.isCrash, crash]
  expects := rfl

/-- A step of the task keeps the invariant. -/
theorem Looks.withFlow {flow : Flow} (looks : reading.Looks)
    (h : reading.stream.flow.advance? = some flow) : (reading.withFlow flow).Looks where
  sound := looks.sound.withFlow h
  counts := looks.counts.withFlow h
  purpose := looks.purpose
  doomed doomed := looks.doomed (Flow.isDoomed_of_advance h doomed)
  lasts hears crash := by
    have before : reading.stream.flow.listening = true := (Flow.keeps_advance h).1 ▸ hears
    exact (Flow.pending_advance before h).2.trans (looks.lasts before crash)
  expects := by
    have expects := looks.expects
    unfold Expects Reading.withFlow at *
    cases reader : reading.reader with
    | closing outcome =>
      simp only [reader] at expects ⊢
      obtain ⟨row, rfl, given, last⟩ := expects
      exact ⟨row, rfl, given, fun one crash =>
        (last one crash).imp_right fun crashes => crashes.advance h⟩
    | done answer => cases answer <;> simpa only [reader] using expects
    | opening | looking => simpa only [reader] using expects
    | refused => trivial
    | idle | collecting => simp only [reader] at expects

/-- A caller that has waited for the first message keeps the invariant. -/
theorem Looks.afterOpening {heard : Option Message × Flow} (looks : reading.Looks)
    (waits : reading.reader = .opening) (h : reading.stream.flow.receive? = some heard) :
    (reading.afterOpening heard).Looks := by
  have sound := looks.sound.afterOpening waits h
  have counts := looks.counts.afterOpening looks.sound waits h
  have unjoined : reading.stream.joined = false := by
    simpa [Expects, waits] using looks.expects
  have nothing : reading.given = [] := by simpa [Reader.Accords, waits] using looks.sound.accords
  have unopened := (looks.counts.unopened waits).2
  have doomed := RowStream.isDoomed_opened h
  have listening := (RowStream.leaves_opened h).listening
  have kept := RowStream.joined_opened h
  unfold Reading.afterOpening at *
  generalize reading.stream.opened heard.1 heard.2 = outcome at *
  obtain ⟨e | _, stream⟩ := outcome
  · exact ⟨sound, counts, looks.purpose, fun crash => looks.doomed (doomed ▸ crash),
      fun hears => by simp [RowStream.hangUp, Flow.hangUp] at hears, trivial⟩
  · refine ⟨sound, counts, looks.purpose, fun crash => looks.doomed (doomed ▸ crash),
      fun hears crash => doomed.trans (looks.lasts (listening ▸ hears) crash), ?_⟩
    have first := counts.first
    simp only [Expects, looks.purpose, opened] at first ⊢
    refine ⟨nothing, fun joined => ?_⟩
    -- the end of the task was looked at because there was no row
    have kept : stream.first = none := (kept rfl unjoined joined).trans unopened
    simpa [kept, nothing, Reader.IsOpen] using first

/-- A caller that has taken the first row keeps the invariant. -/
theorem Looks.afterLooking {next : Except QueryError (Option Row) × RowStream}
    (looks : reading.Looks) (waits : reading.reader = .looking)
    (h : reading.stream.next? = some next) : (reading.afterLooking next).Looks := by
  have sound := looks.sound.afterLooking waits h
  obtain ⟨nothing, unjoined⟩ : reading.given = [] ∧
      (reading.stream.joined = true → reading.response.rows = []) := by
    simpa [Expects, waits] using looks.expects
  have listens : reading.reader.Listens := by rw [waits]; trivial
  have hears := looks.sound.listens.1 listens
  have opens : ∀ e, reading.result 0 ≠ .error e := by
    simpa [Opens, waits] using looks.sound.opens
  obtain ⟨result, stream⟩ := next
  have here : result = reading.result 0 := by simpa [nothing] using (looks.sound.next listens h).1
  have doomed := RowStream.isDoomed_next h
  have leaves := RowStream.leaves_next h
  cases result with
  | error e => exact absurd here.symm (opens e)
  | ok row =>
    refine ⟨sound, counts_hangUp _ _ _ id, looks.purpose,
      fun crash => looks.doomed (doomed ▸ crash),
      fun hears => by simp [Reading.afterLooking, RowStream.hangUp, Flow.hangUp] at hears,
      row, rfl, by simp [Reading.afterLooking, nothing], fun one crash => ?_⟩
    have one : reading.response.rows.length = 1 := one
    obtain ⟨raw, rows⟩ := List.length_eq_one_iff.1 one
    obtain rfl : row = some (Row.ofRaw reading.stream.columns raw) := by
      simpa [Reading.result, Response.result, rows] using here
    have unjoined : stream.joined = false := by
      simpa [← RowStream.joined_next h, rows] using unjoined
    -- the one row was taken, so the task has no other
    have received := looks.counts.received (by rw [waits]; trivial)
    have all := looks.counts.rows hears
    simp only [nothing, accepted, List.length_nil] at received all
    have idle : reading.stream.flow.inHand = 0 := by omega
    have unsent : reading.stream.flow.unsent.length = 0 := by omega
    refine ⟨unjoined, doomed.trans (looks.lasts hears crash), ?_,
      leaves.unsent.trans (List.length_eq_zero_iff.1 unsent)⟩
    show stream.flow.inHand = 0
    simpa only [Flow.inHand, leaves.task] using idle

/-- A caller that has waited for the end of the task keeps the invariant. -/
theorem Looks.afterClosing {outcome : Outcome} (looks : reading.Looks)
    (waits : reading.reader = .closing outcome) (atEnd : reading.stream.flow.isOver = true) :
    (reading.afterClosing outcome).Looks := by
  have sound := looks.sound.afterClosing waits
  have deaf : reading.stream.flow.listening = false := by
    simpa [waits, Reader.Listens] using looks.sound.listens
  obtain ⟨row, rfl, given, last⟩ : ∃ row, outcome = .row row ∧ reading.given = [.ok row] ∧
      (reading.response.rows.length = 1 → reading.response.ending = .crash →
        reading.stream.joined = false ∧ reading.stream.flow.Crashes) := by
    simpa [Expects, waits] using looks.expects
  refine ⟨sound, .of_deaf deaf looks.counts.room id, looks.purpose, looks.doomed,
    fun hears => by simp [Reading.afterClosing, RowStream.join, deaf] at hears, ?_⟩
  -- The end of the task is told of only if it was not looked at before.
  cases crashed : !reading.stream.joined && reading.stream.flow.isCrashed with
  | true =>
    have crash : reading.stream.flow.isCrashed = true := (Bool.and_eq_true_iff.1 crashed).2
    have doomed : reading.stream.flow.isDoomed = true := by
      cases task : reading.stream.flow.task <;> simp_all [Flow.isCrashed, Flow.isDoomed]
    simp [Expects, Reading.afterClosing, RowStream.join, crashed, Except.map, looks.doomed doomed]
  | false =>
    simp only [Expects, Reading.afterClosing, RowStream.join, crashed, Except.map]
    refine ⟨row, rfl, given, fun single => ?_⟩
    obtain ⟨unjoined, crashes⟩ := last single.1 single.2
    simp [unjoined, crashes.isCrashed atEnd] at crashed

/-- A step of a waiting caller keeps the invariant. -/
theorem Looks.read (looks : reading.Looks) (h : reading.read? = some after) : after.Looks := by
  obtain ⟨heard, waits, received, rfl⟩ | ⟨rows, next, waits, -, -⟩ | ⟨next, waits, called, rfl⟩ |
    ⟨outcome, waits, atEnd, rfl⟩ := read_cases h
  · exact looks.afterOpening waits received
  · have expects := looks.expects
    simp only [Expects, waits] at expects
  · exact looks.afterLooking waits called
  · exact looks.afterClosing waits atEnd

/-- A caller that looks for the first row never holds an open stream. -/
theorem Looks.serve_eq_none (looks : reading.Looks) (request : StreamRequest) :
    reading.serve? request = none := by
  have expects := looks.expects
  unfold serve?
  split
  · next idle => simp only [Expects, idle] at expects
  all_goals rfl

/-- What a caller that looks for the first row was answered, once it was. -/
def found? (reading : Reading) : Option (Except QueryError (Option Row)) :=
  match reading.reader with
  | .refused e | .done (.error e) => some (.error e)
  | .done (.ok (.row row)) => some (.ok row)
  | .done (.ok (.rows _)) | .done (.ok .closed) | .done (.ok .dropped) | .opening | .idle
  | .collecting _ | .looking | .closing _ => none

/-- A caller that looks for the first row is answered what the response allows. -/
theorem Looks.finds (looks : reading.Looks) {answer : Except QueryError (Option Row)}
    (known : reading.found? = some answer) :
    reading.response.Finds reading.stream.columns answer := by
  have expects := looks.expects
  unfold found? at known
  unfold Expects at expects
  cases reader : reading.reader with
  | refused e =>
    simp only [reader, Option.some.injEq] at known
    have failed : .error e = reading.response.opens :=
      looks.sound.opening_eq (by simp [opening?, reader])
    unfold Response.opens at failed
    split at failed
    · next rows => simp [Response.Finds, rows, ← known, ← failed, Except.map]
    · simp at failed
  | done last =>
    rw [reader] at known expects
    rcases last with e | outcome
    · obtain rfl := Option.some.inj known
      obtain ⟨rfl, crash⟩ := expects
      cases rows : reading.response.rows <;>
        simp [Response.Finds, rows, crash, Ending.result, Except.map]
    · obtain ⟨row, rfl, given, fine⟩ := expects
      obtain rfl := Option.some.inj known
      have here : .ok row = reading.result 0 := by
        simpa [given] using looks.sound.given 0 (by simp [given])
      cases rows : reading.response.rows with
      | nil => simpa [Response.Finds, Reading.result, Response.result, rows] using here
      | cons raw rest =>
        obtain rfl : row = some (Row.ofRaw reading.stream.columns raw) := by
          simpa [Reading.result, Response.result, rows] using here
        rw [Response.Finds, rows]
        exact .inl ⟨rfl, by simpa [rows] using fine⟩
  | _ => simp [reader] at known

/-- A caller that looked for the first row and rests has been answered. -/
theorem Looks.answered (looks : reading.Looks) (rests : reading.Rests) :
    reading.found?.isSome = true := by
  obtain ⟨-, reader⟩ := rests
  have expects := looks.expects
  unfold Expects at expects
  unfold found?
  cases at_ : reading.reader with
  | opening | collecting | looking | closing => simp [at_] at reader
  | refused e => rfl
  | idle => simp [at_] at expects
  | done answer =>
    rw [at_] at expects
    rcases answer with e | outcome
    · rfl
    · obtain ⟨row, rfl, -⟩ := expects
      rfl

/-- A run keeps the invariant. -/
theorem Runs.looks (runs : reading.Runs after) (looks : reading.Looks) : after.Looks := by
  induction runs with
  | refl => exact looks
  | tail _ step ih =>
    cases step with
    | task advanced => exact ih.withFlow advanced
    | read done => exact ih.read done
    | serve request done => simp [ih.serve_eq_none request] at done

end Reading

namespace RowStream

variable {columns : List OutputColumn} {capacity : Nat} {response : Response} {stream : RowStream}

/-- A stream on a query that failed before it was started cannot be opened. -/
theorem ofFlow_refused (columns : List OutputColumn) (room : 0 < capacity) (e : QueryError) :
    (ofFlow columns (.ended capacity (.failure e))).1 = .error e := by
  have settled : (Flow.ended capacity (.failure e)).settle =
      ⟨capacity, [], .failure e, .done, [.error e], true⟩ := by
    have moved : (Flow.ended capacity (.failure e)).advance? =
        some ⟨capacity, [], .failure e, .done, [.error e], true⟩ := by
      simp [Flow.ended, Flow.advance?, Task.after, Flow.hasRoom, room]
    unfold Flow.settle
    split
    · next next h =>
      rw [← Option.some.inj (moved.symm.trans h)]
      exact Flow.settle_of_stuck rfl
    · next stuck => simp [moved] at stuck
  simp [ofFlow, settled, Flow.receive, Flow.receive?, opened]

/-- The first row of the stream on a query that has just been started is what the response
allows. -/
theorem finds_firstRow (room : 0 < capacity)
    (opened : ofFlow columns (.start capacity response) = (.ok (), stream)) :
    response.Finds columns stream.firstRow.1 := by
  have looks := Reading.looks_start capacity columns (.own 0) response (by simp)
  have frees := Reading.frees_start capacity .firstRow columns (.own 0) response
  have unopened : (Reading.start capacity .firstRow columns (.own 0) response).stream =
      ofUnopened columns (.start capacity response) := rfl
  obtain ⟨middle, opening, same, told⟩ := Reading.reaches_opening rfl unopened room frees
  simp only [opened] at same told
  have waits : middle.reader = .looking := told.1
  obtain ⟨after, reaches, -, told⟩ := Reading.reaches_looking waits
    (opening.runs.keeps.capacity ▸ room) opening.stuck told.2
  have runs := (opening.trans reaches).runs
  have response_eq : after.response = response := runs.keeps.response
  have columns_eq : after.stream.columns = columns := runs.keeps.columns
  have answered : after.found? = some stream.firstRow.1 := by
    rw [← same]
    cases found : middle.stream.firstRow.1 <;> simp [Reading.found?, told, found, Except.map]
  rw [← columns_eq, ← response_eq]
  exact (runs.looks looks).finds answered

end RowStream

namespace Engine

variable {engine : Engine} {plan : Plan}

/-- The first row of a plan on a connection of its own is what the response of the store allows. -/
theorem finds_executeOne {query : CompiledQuery} {connection : ConnectionId} {store : Store}
    (room : 0 < engine.buffer) (compiled : plan.firstOnly.compile = .ok query)
    (acquired : engine.store.acquire = (.ok connection, store)) :
    (store.query connection query.sql query.params).1.Finds query.columns
      (engine.executeOne plan).1 := by
  simp only [executeOne, Engine.execute, compiled, acquired, Engine.run]
  generalize (store.query connection query.sql query.params).1 = response
  have opens := RowStream.ofFlow_start query.columns room response
  rcases opened : RowStream.ofFlow query.columns (.start engine.buffer response) with
    ⟨e | _, stream⟩
  · rw [opened] at opens
    simp only [Response.opens] at opens
    split at opens
    · next rows => simp [Response.Finds, rows, ← opens, Except.map, firstOpened]
    · simp at opens
  · simp only [Except.map, firstOpened, stream_settle]
    exact RowStream.finds_firstRow room opened

/-- A store that refuses a connection is not asked for rows, and its error is all there is. -/
theorem fetchAll_of_refused {query : CompiledQuery} {e : QueryError} {store : Store}
    (room : 0 < engine.buffer) (compiled : plan.compile = .ok query)
    (refused : engine.store.acquire = (.error e, store)) :
    engine.fetchAll plan = (.error e, { engine with store }) := by
  have unopened := RowStream.ofFlow_refused query.columns room e
  simp [fetchAll, Engine.execute, compiled, refused, collectOpened, unopened, Except.map]

/-- If an engine can fetch all rows of a limited plan, the first of them is the first row of the
plan. -/
theorem executeOne_of_fetchAll {rows : List Row} (room : 0 < engine.buffer)
    (fetched : (engine.fetchAll plan.firstOnly).1 = .ok rows) :
    (engine.executeOne plan).1 = .ok rows.head? := by
  cases compiled : plan.firstOnly.compile with
  | error e => simp [fetchAll, Engine.execute, compiled, collectOpened] at fetched
  | ok query =>
    rcases acquired : engine.store.acquire with ⟨e | connection, store⟩
    · simp [fetchAll_of_refused room compiled acquired] at fetched
    · rw [fetchAll_eq room compiled acquired] at fetched
      exact (finds_executeOne room compiled acquired).of_all fetched

end Engine

namespace System

variable {system : System}

/-- A caller that looks for the first row satisfies its invariant in any run. -/
theorem Reachable.looks (reached : system.Reachable) {reading : Reading}
    (mem : .running reading ∈ system.parties) (one : reading.purpose = .firstRow) :
    reading.Looks := by
  refine reached.forall_running
    (motive := fun _ reading => reading.purpose = .firstRow → reading.Looks) ?_ ?_ ?_ ?_ mem one
  · rintro buffer _ columns supply response - failed rfl
    exact Reading.looks_start _ _ _ _ failed
  · exact fun _ _ _ advanced ih one => (ih one).withFlow advanced
  · exact fun _ _ _ done ih one =>
      (ih ((Reading.leaves_read done).toKeeps.purpose ▸ one)).read done
  · intro _ reading after request done ih one
    have looks := ih ((Reading.leaves_serve done).toKeeps.purpose ▸ one)
    simp [looks.serve_eq_none request] at done

/-- Whatever goes on in an engine, and in whatever order, a caller that looks for the first row of a
plan that was compiled is answered alike. Without a row it is told the end of the query. With one it
is given that row, whatever the query does then, unless the query brings its task down: then it is
given the row or told of the crash, and always the latter if there was no other row. Whenever a
caller of the same query was given all rows, it is given the first of them. What happens by itself
comes to an end, and then the answer is there. So the engine's own call for the first row gives what
the store's response allows, and the first of all rows if it can fetch them. -/
theorem Reachable.finds_first (reached : system.Reachable) {reading : Reading}
    (mem : .running reading ∈ system.parties) (one : reading.purpose = .firstRow) :
    (∃ plan query, Plan.compile (Plan.firstOnly plan) = .ok query ∧
        reading.stream.columns = query.columns) ∧
      (∀ answer, reading.found? = some answer →
        (reading.response.rows = [] → answer = reading.response.ending.result.map fun _ => none) ∧
        (∀ raw rest, reading.response.rows = raw :: rest →
          (reading.response.ending ≠ .crash →
            answer = .ok (some (Row.ofRaw reading.stream.columns raw))) ∧
          (reading.response.ending = .crash →
            answer = .error (.store .taskFailed) ∨
              (rest ≠ [] ∧ answer = .ok (some (Row.ofRaw reading.stream.columns raw))))) ∧
        ∀ other : System, other.Reachable → ∀ whole, .running whole ∈ other.parties →
          whole.purpose = .allRows → whole.response = reading.response →
          whole.stream.columns = reading.stream.columns →
          ∀ rows, whole.collected? = some (.ok rows) → answer = .ok rows.head?) ∧
      (system.Quiet → reading.found?.isSome = true) ∧
      (WellFounded fun after before : System => before.Reachable ∧ Step .engine before after) ∧
      ∀ (engine : Engine) (plan : Plan), 0 < engine.buffer →
        (∀ query connection store, plan.firstOnly.compile = .ok query →
          engine.store.acquire = (.ok connection, store) →
          (store.query connection query.sql query.params).1.Finds query.columns
            (engine.executeOne plan).1) ∧
        ∀ rows, (engine.fetchAll plan.firstOnly).1 = .ok rows →
          (engine.executeOne plan).1 = .ok rows.head? := by
  have looks := reached.looks mem one
  refine ⟨?_, fun answer known => ?_, ?_, wellFounded_step, fun engine plan room =>
    ⟨fun _ _ _ compiled acquired => Engine.finds_executeOne room compiled acquired,
      fun _ fetched => Engine.executeOne_of_fetchAll room fetched⟩⟩
  · obtain ⟨plan, query, compiled, columns⟩ := reached.isCompiled _ mem
    rw [one] at compiled
    exact ⟨plan, query, compiled, columns⟩
  · have finds := looks.finds known
    refine ⟨finds.of_no_row, fun raw rest rows => ⟨finds.of_ending rows, finds.of_crash rows⟩, ?_⟩
    intro other reachable whole runs purpose response columns rows collected
    have all := (reachable.sound runs).collected_eq purpose collected
    rw [response, columns] at all
    exact finds.of_all all.symm
  · exact fun quiet => looks.answered (quiet.rests reached mem)

end System

namespace Journal

/-- The query of the plan cut to its first row. -/
def firstQuery : CompiledQuery where
  sql := String.ofList (plan.firstOnly.pieces.flatMap Sql.Piece.chars)
  params := []
  columns := query.columns

/-- Two entries, and then the query fails. -/
def failing : Response where
  rows := [[.integer 1], [.integer 2]]
  ending := .failure (.store (.stated "disk I/O error"))

/-- The first of the two entries as its caller has it in the end. -/
def foremost : Reading where
  purpose := .firstRow
  supply := .own 1
  response := failing
  stream :=
    { columns := firstQuery.columns
      first := none
      flow := ⟨1, [], failing.ending, .done, [], false⟩
      joined := true
      received := 1 }
  reader := .done (.ok (.row (some ⟨[("id", .integer 1)]⟩)))
  given := [.ok (some ⟨[("id", .integer 1)]⟩)]

/-- In an engine with room for one row ahead, the query fails while its caller takes the first
row. -/
theorem reachable_foremost :
    ∃ store, System.Reachable ⟨store, 1, .running foremost ::ₘ 0⟩ := by
  have started := System.Reachable.start 1 (rules failing) 1
  have compiled : (Purpose.firstRow.plan plan).compile = .ok firstQuery := rfl
  have asked := started.step (.run compiled)
  have supplied := asked.step (.move (.acquire (.granted rfl)))
  have running := supplied.step (.move (.queryOwn rfl))
  have first := (running.step (.move (.task rfl))).step (.move (.task rfl))
  have opened := first.step (.move (.read rfl))
  have second := (opened.step (.move (.task rfl))).step (.move (.task rfl))
  have fails := second.step (.move (.task rfl))
  have taken := fails.step (.move (.read rfl))
  have stopped := taken.step (.move (.task rfl))
  have atEnd := stopped.step (.move (.read rfl))
  exact ⟨_, atEnd⟩

/-- The caller that looked for the first entry has it, although the query has failed since. -/
theorem found_foremost :
    ∃ store, System.Reachable ⟨store, 1, .running foremost ::ₘ 0⟩ ∧
      foremost.purpose = .firstRow ∧
      foremost.found? = some (.ok (some (Row.ofRaw firstQuery.columns [.integer 1]))) := by
  obtain ⟨store, reached⟩ := reachable_foremost
  have mem : .running foremost ∈ Party.running foremost ::ₘ 0 := Multiset.mem_cons_self _ _
  obtain ⟨-, answers, -⟩ := reached.finds_first mem rfl
  have first := (answers (.ok (some ⟨[("id", .integer 1)]⟩)) rfl).2.1 [.integer 1] _ rfl
  have answered := first.1 (by simp [foremost, failing])
  exact ⟨store, reached, rfl, congrArg some answered⟩

end Journal

end TypedQuery
