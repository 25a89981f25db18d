import TypedQuery.Proofs.Engine.Backlog
import TypedQuery.Proofs.Engine.Protocol

/-!
# Back-pressure

A query is not ahead of its reader by more than the queue is long, and it holds its connection until
it has handed over its last row. So a stream that is read no further keeps the connection exactly if
the query has more rows than the reader has taken and the queue has room for; and in a transaction
this decides whether the next step gets the connection.
-/

namespace TypedQuery

namespace System

variable {system : System}

/-- Every row is in one place in any run. -/
theorem Reachable.counts (reached : system.Reachable) {reading : Reading}
    (mem : .running reading ∈ system.parties) : reading.Counts := by
  refine (reached.forall_running (motive := fun _ reading => reading.Sound ∧ reading.Counts)
    ?_ ?_ ?_ ?_ mem).2
  · exact fun _ _ _ _ _ _ failed =>
      ⟨Reading.sound_start _ _ _ _ _ failed, Reading.counts_start _ _ _ _ _⟩
  · exact fun _ _ _ advanced ⟨sound, counts⟩ => ⟨sound.withFlow advanced, counts.withFlow advanced⟩
  · exact fun _ _ _ done ⟨sound, counts⟩ => ⟨sound.read done, counts.read sound done⟩
  · exact fun _ _ _ _ done ⟨sound, counts⟩ => ⟨sound.serve done, counts.serve sound done⟩

/-- Whether no query that was lent a connection takes a step without its reader. -/
def Stalled (parties : Multiset Party) (connection : ConnectionId) : Prop :=
  ∀ party ∈ parties,
    match party with
    | .queued _ _ lent => lent ≠ some connection
    | .running reading => reading.supply = .lent connection → reading.stream.flow.advance? = none
    | .supplied .. | .doing _ | .keeping _ => True

/-- Whether every query that was lent a connection is read no more, or has no more rows than were
taken and fit into the queue. -/
def LetGo (system : System) (connection : ConnectionId) : Prop :=
  ∀ reading, .running reading ∈ system.parties → reading.supply = .lent connection →
    reading.stream.flow.listening = false ∨
      reading.response.rows.length ≤ reading.stream.received + system.buffer

/-- When the queries of a transaction take no step without their readers, the connection of the
transaction is free for its guard exactly if they have let go of it. -/
theorem Reachable.free_iff_letGo (reached : system.Reachable) {transaction : Transaction}
    {request : Request} (mem : .keeping transaction ∈ system.parties)
    (claiming : transaction.phase = .claiming request)
    (stalled : Stalled system.parties transaction.connection) :
    Free system.parties transaction.connection ↔ system.LetGo transaction.connection := by
  have stuck {reading : Reading} (runs : .running reading ∈ system.parties)
      (lent : reading.supply = .lent transaction.connection) :
      reading.stream.flow.advance? = none := stalled _ runs lent
  constructor
  · intro free reading runs lent
    cases hears : reading.stream.flow.listening with
    | false => exact .inl rfl
    | true =>
      have law := ((reached.counts runs).of_stuck (reached.frees runs) hears (stuck runs lent)).2
      rw [reached.capacity_eq runs] at law
      refine .inr (Nat.le_of_not_lt fun more => ?_)
      exact free _ runs (Party.uses_of_borrows (Party.borrows_running.2 ⟨lent, law.2 more⟩))
  · intro letGo party other uses
    rcases Party.handed_or_borrows uses with handed | borrows
    · -- the connection was handed out for the transaction, whose guard is still waiting for it
      have once : countOf Party.handed system.parties transaction.connection ≤ 1 :=
        reached.accounts.handed transaction.connection ▸
          reached.accounts.once transaction.connection
      obtain rfl := eq_of_countOf_le_one once mem rfl other handed
      simp [Party.uses, claiming] at uses
    · cases party with
      | queued purpose query lent => exact stalled _ other borrows
      | supplied | doing | keeping => simp [Party.borrows] at borrows
      | running reading =>
        obtain ⟨lent, holds⟩ := Party.borrows_running.1 borrows
        cases hears : reading.stream.flow.listening with
        | false =>
          rcases Flow.isOver_or_full (stuck other lent) with atEnd | ⟨listens, -, -⟩
          · simp [Reading.holds, Flow.holds_of_isOver atEnd] at holds
          · simp [hears] at listens
        | true =>
          have law :=
            ((reached.counts other).of_stuck (reached.frees other) hears (stuck other lent)).2
          rw [reached.capacity_eq other] at law
          have more := law.1 holds
          rcases letGo reading other lent with deaf | fits
          · simp [hears] at deaf
          · omega

/-- A claim of a free connection is granted. -/
theorem uses_of_claiming {buffer : Nat} {free : ConnectionId → Prop} {store after : Store}
    {transaction : Transaction} {next : Party} {request : Request}
    (claiming : transaction.phase = .claiming request) (isFree : free transaction.connection)
    (moved : Party.Moves buffer free .engine store (.keeping transaction) after next) :
    next.uses = some transaction.connection := by
  cases moved with
  | refuse _ held => exact absurd isFree held
  | grantQuery => rfl
  | @grantCall _ _ _ call => cases call <;> rfl
  | rejectPlan phase | returned phase | undo phase | undone phase | giveUp phase =>
    simp [claiming] at phase

/-- A query whose task takes no step and whose reader holds an open stream stays as it is until its
reader asks for something. -/
theorem Step.keeps_idle {after : System} (step : Step .engine system after) {reading : Reading}
    (mem : .running reading ∈ system.parties) (idle : reading.reader = .idle)
    (stuck : reading.stream.flow.advance? = none) : .running reading ∈ after.parties := by
  cases step with
  | move moved =>
    rcases Multiset.mem_cons.1 mem with rfl | other
    · cases moved with
      | task advanced => simp [stuck] at advanced
      | read done => simp [Reading.read?, idle] at done
    · exact Multiset.mem_cons_of_mem other
  | lend =>
    rcases Multiset.mem_cons.1 mem with same | other
    · cases same
    · exact Multiset.mem_cons_of_mem (Multiset.mem_cons_of_mem other)

/-- The law of back-pressure, for every query that is read and every length of the queue. While the
reader listens, the queue has accepted no more rows than the reader has taken and the queue has room
for, and the query has handed over one more at most; a reader with an open stream has taken the
first row without being given it, and from then on as many as it was given. When the task takes no
step, the queue has accepted all rows or as many as that, and the query still holds its connection
exactly if there are more, however it will end; and this stays so until the reader asks for more.
When the queries of a transaction have come to this point, a guard that claims the connection gets
it exactly if each of them is read no more or has no such rest, and is refused otherwise. -/
theorem Reachable.backPressure (reached : system.Reachable) :
    (∀ reading, .running reading ∈ system.parties → reading.stream.flow.listening = true →
        reading.accepted ≤ reading.stream.received + system.buffer ∧
        reading.pulled ≤ reading.stream.received + system.buffer + 1 ∧
        (reading.reader.IsOpen → reading.stream.received =
          min reading.response.rows.length (max 1 reading.given.length)) ∧
        (reading.stream.flow.advance? = none →
          reading.accepted =
            min reading.response.rows.length (reading.stream.received + system.buffer) ∧
          (reading.holds = true ↔
            reading.stream.received + system.buffer < reading.response.rows.length) ∧
          (reading.reader = .idle → ∀ after, Step .engine system after →
            .running reading ∈ after.parties))) ∧
      ∀ transaction request, .keeping transaction ∈ system.parties →
        transaction.phase = .claiming request →
        Stalled system.parties transaction.connection →
          (∃ after next, Party.Moves system.buffer (Free system.parties) .engine system.store
            (.keeping transaction) after next) ∧
          ∀ after next, Party.Moves system.buffer (Free system.parties) .engine system.store
            (.keeping transaction) after next →
            (next.uses = some transaction.connection ↔ system.LetGo transaction.connection) ∧
            (¬system.LetGo transaction.connection →
              after = system.store ∧ next = .keeping
                (transaction.answer request.refusedPhase
                  (.error (.storeUnavailable .heldByStream)))) := by
  refine ⟨fun reading mem hears => ?_, fun transaction request mem claiming stalled => ⟨?_, ?_⟩⟩
  · have counts := reached.counts mem
    have capacity := reached.capacity_eq mem
    obtain ⟨accepted, pulled⟩ := counts.bounds hears
    refine ⟨capacity ▸ accepted, capacity ▸ pulled, counts.received, fun stuck => ?_⟩
    obtain ⟨all, held⟩ := counts.of_stuck (reached.frees mem) hears stuck
    exact ⟨capacity ▸ all, capacity ▸ held, fun idle after step => step.keeps_idle mem idle stuck⟩
  · by_cases free : Free system.parties transaction.connection
    · cases request with
      | query purpose plan => exact ⟨_, _, .grantQuery claiming free⟩
      | call call => exact ⟨_, _, .grantCall claiming free rfl⟩
    · exact ⟨_, _, .refuse claiming free⟩
  · intro after next moved
    rw [← reached.free_iff_letGo mem claiming stalled]
    by_cases free : Free system.parties transaction.connection
    · exact ⟨⟨fun _ => free, fun _ => uses_of_claiming claiming free moved⟩, absurd free⟩
    · obtain ⟨silent, refused⟩ := refused_of_claiming claiming free moved
      refine ⟨⟨fun uses => ?_, fun isFree => absurd isFree free⟩, fun _ => ⟨silent, refused⟩⟩
      rw [refused] at uses
      rcases request with _ | _ | _ | _ <;>
        simp [Party.uses, Transaction.answer, Request.refusedPhase] at uses

end System

namespace Journal

/-- With three entries and room for one row ahead of the one that was taken, the stream keeps the
connection, and the statement is refused. -/
theorem backPressure_waiting :
    ∃ store, System.Reachable ⟨store, 1, .keeping waiting ::ₘ .running ahead ::ₘ 0⟩ ∧
      ahead.accepted = 2 ∧ ahead.holds = true ∧
      ∀ after next, Party.Moves 1 (System.Free (.keeping waiting ::ₘ .running ahead ::ₘ 0)) .engine
        store (.keeping waiting) after next →
          after = store ∧ next = .keeping
            (waiting.answer .idle (.error (.storeUnavailable .heldByStream))) := by
  obtain ⟨store, reached⟩ := reachable_waiting
  obtain ⟨rows, claims⟩ := reached.backPressure
  have stream : .running ahead ∈ Party.keeping waiting ::ₘ .running ahead ::ₘ 0 := by simp
  have guard : .keeping waiting ∈ Party.keeping waiting ::ₘ .running ahead ::ₘ 0 := by simp
  have stalled : System.Stalled (.keeping waiting ::ₘ .running ahead ::ₘ 0) waiting.connection := by
    intro party mem
    simp only [Multiset.mem_cons, Multiset.notMem_zero, or_false] at mem
    rcases mem with rfl | rfl
    · trivial
    · exact fun _ => rfl
  have kept : ¬System.LetGo ⟨store, 1, .keeping waiting ::ₘ .running ahead ::ₘ 0⟩ 1 := by
    intro letGo
    rcases letGo ahead stream rfl with deaf | fits
    · simp [ahead] at deaf
    · simp [ahead, three] at fits
  obtain ⟨-, -, -, stuck⟩ := rows ahead stream rfl
  obtain ⟨accepted, held, -⟩ := stuck rfl
  refine ⟨store, reached, accepted, held.2 (by simp [ahead, three]), fun after next moved => ?_⟩
  exact ((claims waiting _ guard rfl stalled).2 after next moved).2 kept

end Journal

end TypedQuery
