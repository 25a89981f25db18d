import Mathlib.Algebra.BigOperators.Group.Multiset.Basic
import TypedQuery.Proofs.Engine.Delivery

/-!
# An engine comes to rest

What happens by itself in an engine comes to an end, whichever party is next at each step. A query
that is still to be made may give any number of rows, but there are only so many of those
(`Party.debt`), and every other step brings its party nearer to its own end (`Party.work`).
-/

namespace TypedQuery

namespace Flow

variable {flow : Flow}

/-- With a message taken out, there is one less for the reader. -/
theorem remaining_rest {message : Message} {rest : List Message}
    (queue : flow.queue = message :: rest) :
    Flow.remaining { flow with queue := rest } + 1 = flow.remaining := by
  simp only [remaining, queue, List.length_cons]
  omega

end Flow

namespace RowStream

variable {stream : RowStream}

/-- A call of `next` leaves the task as it was, and what is left for the reader gets no more; it
gets less if there was a row. -/
theorem remaining_next? {result : Except QueryError (Option Row)} {after : RowStream}
    (h : stream.next? = some (result, after)) :
    after.flow.work = stream.flow.work ∧ after.remaining ≤ stream.remaining ∧
      ∀ row, result = .ok (some row) → after.remaining < stream.remaining := by
  obtain ⟨raw, kept, rfl, rfl⟩ | ⟨raw, rest, waiting, queue, rfl, rfl⟩ |
    ⟨e, rest, waiting, queue, rfl, rfl⟩ | ⟨waiting, queue, atEnd, rfl, rfl⟩ := next_cases h
  · simp [remaining, kept]
  · have less := Flow.remaining_rest queue
    exact ⟨rfl, by simp only [remaining]; omega, fun _ _ => by simp only [remaining]; omega⟩
  · have less := Flow.remaining_rest queue
    exact ⟨rfl, by simp only [remaining]; omega, by simp⟩
  · refine ⟨rfl, Nat.le_refl _, fun row same => ?_⟩
    cases ended : stream.join.1 <;> simp [ended, Except.map] at same

/-- Opening a stream leaves the task as it was, and there gets no more left for the reader. -/
theorem remaining_opened {heard : Option Message × Flow} (unopened : stream.first = none)
    (h : stream.flow.receive? = some heard) :
    (stream.opened heard.1 heard.2).2.flow.work = stream.flow.work ∧
      (stream.opened heard.1 heard.2).2.remaining ≤ stream.remaining := by
  obtain ⟨raw, rest, queue, same⟩ | ⟨e, rest, queue, same⟩ | ⟨-, -, same⟩ := opened_cases h <;>
    rw [same]
  · have less := Flow.remaining_rest queue
    exact ⟨rfl, by simp [remaining, unopened]; omega⟩
  · have less := Flow.remaining_rest queue
    exact ⟨rfl, by simp only [remaining]; omega⟩
  · exact ⟨rfl, Nat.le_refl _⟩

/-- A reader that stops listening leaves the task as it was, and nothing more for itself. -/
theorem remaining_hangUp (stream : RowStream) :
    stream.hangUp.flow.work = stream.flow.work ∧ stream.hangUp.remaining ≤ stream.remaining := by
  refine ⟨rfl, ?_⟩
  simp only [hangUp, remaining, Flow.hangUp, Flow.remaining, List.length_nil]
  simp
  omega

end RowStream

/-! ## What is left to do -/

/-- How far a caller that waits is from its answer, rows apart. -/
def Reader.rank : Reader → Nat
  | .opening => 3
  | .collecting _ | .looking => 2
  | .closing _ => 1
  | .refused _ | .idle | .done _ => 0

namespace Reading

/-- The steps that the task and a waiting caller have left at most. -/
def work (reading : Reading) : Nat :=
  reading.stream.flow.work + reading.stream.remaining + reading.reader.rank

variable {reading after : Reading}

/-- A step of the task leaves less to do. -/
theorem work_withFlow {flow : Flow} (h : reading.stream.flow.advance? = some flow) :
    (reading.withFlow flow).work < reading.work := by
  have task := Flow.work_advance h
  have messages := Flow.remaining_advance h
  have kept : (reading.withFlow flow).stream.first = reading.stream.first := rfl
  simp only [work, RowStream.remaining, kept]
  simp only [withFlow]
  omega

/-- A step of a waiting caller leaves less to do. -/
theorem work_read (sound : reading.Sound) (h : reading.read? = some after) :
    after.work < reading.work := by
  obtain ⟨heard, waits, received, rfl⟩ | ⟨rows, next, waits, called, rfl⟩ |
    ⟨next, waits, called, rfl⟩ | ⟨outcome, waits, -, rfl⟩ := read_cases h
  · have unopened : reading.stream.first = none := by simpa [Opens, waits] using sound.opens
    obtain ⟨task, left⟩ := RowStream.remaining_opened unopened received
    unfold afterOpening
    generalize reading.stream.opened heard.1 heard.2 = opened at *
    obtain ⟨_ | _, stream⟩ := opened
    · have gone := RowStream.remaining_hangUp stream
      simp only [work, waits, Reader.rank] at *
      omega
    · cases reading.purpose <;> simp only [work, waits, Reader.rank, Reading.opened] at * <;> omega
  · obtain ⟨result, stream⟩ := next
    obtain ⟨task, left, fewer⟩ := RowStream.remaining_next? called
    have gone := RowStream.remaining_hangUp stream
    rcases result with e | _ | row
    · simp only [afterCollecting, work, waits, Reader.rank] at *
      omega
    · simp only [afterCollecting, work, waits, Reader.rank] at *
      omega
    · have fewer := fewer row rfl
      simp only [afterCollecting, work, waits, Reader.rank] at *
      omega
  · obtain ⟨result, stream⟩ := next
    obtain ⟨task, left, -⟩ := RowStream.remaining_next? called
    have gone := RowStream.remaining_hangUp stream
    rcases result with e | row <;> simp only [afterLooking, work, waits, Reader.rank] at * <;> omega
  · simp [afterClosing, work, waits, Reader.rank, RowStream.join, RowStream.remaining]

end Reading

/-- The queries that are still to be made by a guard's transaction. -/
def Phase.debt : Phase → Nat
  | .claiming (.query ..) | .granted .. => 1
  | .idle | .claiming (.call _) | .calling .. | .abandoned | .undoing _ | .left | .ended => 0

/-- How far a transaction is from its next rest. -/
def Phase.work : Phase → Nat
  -- a claim may lead to a commit that fails, and that to a roll-back
  | .claiming _ => 5
  | .calling .commit _ => 4
  | .abandoned => 3
  | .granted .. | .calling (.statement ..) _ | .calling .rollback _ | .undoing _ | .left => 1
  | .idle | .ended => 0

namespace Party

/-- The queries that are still to be made by a party. -/
def debt : Party → Nat
  | .queued .. | .supplied .. => 1
  | .running _ | .doing _ => 0
  | .keeping transaction => transaction.phase.debt

/-- The steps that a party has left at most before it makes a query or comes to rest. -/
def work : Party → Nat
  | .queued _ _ none => 1
  | .queued _ _ (some _) | .supplied .. => 0
  | .running reading => reading.work
  | .doing (.waiting _) => 3
  | .doing (.holding ..) => 2
  | .doing (.calling ..) => 1
  | .doing (.done ..) => 0
  | .keeping transaction => transaction.phase.work

/-- Whatever a party does by itself, it makes a query or comes nearer to its rest. -/
theorem spends {buffer : Nat} {free : ConnectionId → Prop} {store after : Store}
    {party next : Party} (sound : ∀ reading, party = .running reading → reading.Sound)
    (moved : Moves buffer free .engine store party after next) :
    next.debt < party.debt ∨ (next.debt = party.debt ∧ next.work < party.work) := by
  cases moved with
  | @acquire _ _ _ _ result _ => cases result <;> simp [debt, work, afterAcquire]
  | queryOwn | queryLent => simp [debt]
  | task advanced => exact .inr ⟨rfl, Reading.work_withFlow advanced⟩
  | read done => exact .inr ⟨rfl, Reading.work_read (sound _ rfl) done⟩
  | @hire _ _ _ result _ => cases result <;> simp [debt, work, afterHire]
  | perform => simp [debt, work]
  | @complete _ job connection ending =>
    cases job <;> cases ending <;> simp [debt, work, afterJob, Phase.debt, Phase.work]
  | @refuse _ _ request claiming =>
    rcases request with _ | _ | _ | _ <;>
      simp [debt, work, claiming, Transaction.answer, Request.refusedPhase, Phase.debt, Phase.work]
  | grantQuery claiming | rejectPlan claiming =>
    simp [debt, work, claiming, Transaction.answer, Phase.debt, Phase.work]
  | @grantCall _ _ _ call _ claiming =>
    cases call <;> simp [debt, work, claiming, Transaction.call, Phase.debt, Phase.work]
  | @returned _ _ call response calling =>
    cases call <;> cases response.ending <;>
      simp [debt, work, calling, Transaction.answer, GuardCall.returnedPhase, Phase.debt,
        Phase.work]
  | undo abandoned => simp [debt, work, abandoned, Transaction.undo, Phase.debt, Phase.work]
  | undone undoing => simp [debt, work, undoing, Phase.debt, Phase.work]
  | giveUp left => simp [debt, work, left, Phase.debt, Phase.work]

end Party

namespace System

/-- Every reading is sound after any run. -/
theorem Reachable.sound {system : System} (reached : system.Reachable) {reading : Reading}
    (mem : .running reading ∈ system.parties) : reading.Sound :=
  reached.forall_running (motive := fun _ reading => reading.Sound)
    (fun _ _ _ _ _ _ failed => Reading.sound_start _ _ _ _ _ failed)
    (fun _ _ _ advanced sound => sound.withFlow advanced)
    (fun _ _ _ done sound => sound.read done) (fun _ _ _ _ done sound => sound.serve done) mem

/-- The queries that are still to be made. -/
def debt (system : System) : Nat :=
  (system.parties.map Party.debt).sum

/-- The steps that are left at most before the next query is made. -/
def work (system : System) : Nat :=
  (system.parties.map Party.work).sum

/-- Whatever happens by itself, a query is made or there is less to do. -/
theorem spends {before after : System} (reached : before.Reachable)
    (step : Step .engine before after) :
    Prod.Lex (· < ·) (· < ·) (after.debt, after.work) (before.debt, before.work) := by
  rw [Prod.lex_def]
  cases step with
  | @move _ store after buffer party next rest moved =>
    have sound : ∀ reading, party = .running reading → reading.Sound :=
      fun reading same => reached.sound (same ▸ Multiset.mem_cons_self party rest)
    -- the share of one party changes, and those of the others do not
    have spent := Party.spends sound moved
    simp only [debt, work, Multiset.map_cons, Multiset.sum_cons]
    omega
  | lend granted compiled =>
    simp [debt, work, Party.debt, Party.work, granted, Phase.debt, Phase.work]

/-- What happens by itself comes to an end, in whatever order it happens. -/
theorem wellFounded_step :
    WellFounded fun after before : System => before.Reachable ∧ Step .engine before after :=
  Subrelation.wf (fun ⟨reached, step⟩ => spends reached step)
    (InvImage.wf (fun system : System => (system.debt, system.work))
      (Prod.lex Nat.lt_wfRel Nat.lt_wfRel).wf)

end System

end TypedQuery
