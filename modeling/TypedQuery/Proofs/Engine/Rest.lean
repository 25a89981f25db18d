import TypedQuery.Proofs.Engine.Progress

/-!
# An engine at rest

Once nothing happens any more by itself, everyone has been answered: no one waits for a first
message, for rows, for the end of a close, for a connection or for a call. What is left are open
streams, whose tasks have ended or wait for room in a queue that is full, guards that wait for their
owners, and transactions without a guard whose connection is held by such a stream.
-/

namespace TypedQuery

namespace Flow

variable {flow : Flow}

/-- A task that takes no step has ended, or waits for room in the queue of a listening reader. -/
theorem isOver_or_full (stuck : flow.advance? = none) :
    flow.isOver = true ∨
      (flow.listening = true ∧ flow.hasRoom = false ∧
        ((∃ row, flow.task = .offering row) ∨ ∃ e, flow.task = .reporting e)) := by
  unfold advance? at stuck
  unfold isOver
  split at stuck
  · split at stuck <;> simp at stuck
  · next row offering => split at stuck <;> simp_all
  · next e reporting => split at stuck <;> simp_all
  · next done => simp [done]
  · next crashed => simp [crashed]

/-- When the task takes no step, a reader of a queue with any room at all has something to hear. -/
theorem isSome_receive (room : 0 < flow.capacity) (stuck : flow.advance? = none) :
    flow.receive?.isSome = true := by
  unfold receive?
  cases queue : flow.queue with
  | cons message rest => rfl
  | nil =>
    rcases isOver_or_full stuck with atEnd | ⟨-, full, -⟩
    · simp [atEnd]
    · simp [hasRoom, queue, room] at full

end Flow

namespace RowStream

variable {stream : RowStream}

/-- When the task takes no step, a reader of a queue with any room at all is given a result. -/
theorem isSome_next (room : 0 < stream.flow.capacity) (stuck : stream.flow.advance? = none) :
    stream.next?.isSome = true := by
  unfold next?
  split
  · rfl
  · simpa using Flow.isSome_receive room stuck

end RowStream

/-- Whether only the caller of a query can do something: the task takes no step, and has ended if
the caller is done with the stream. -/
def Reading.Rests (reading : Reading) : Prop :=
  reading.stream.flow.advance? = none ∧
    match reading.reader with
    | .opening | .collecting _ | .looking | .closing _ => False
    | .idle => reading.stream.next?.isSome = true
    | .refused _ | .done _ => reading.stream.flow.isOver = true

/-- Whether a transaction waits for its guard's owner or for its connection, or has ended. -/
def Phase.Rests (free : Prop) : Phase → Prop
  | .idle | .ended => True
  | .abandoned | .left => ¬free
  | .claiming _ | .granted .. | .calling .. | .undoing _ => False

/-- When neither the task nor a waiting caller takes a step, only the caller of an open stream has
something to do. -/
theorem Reading.rests {reading : Reading} (sound : reading.Sound)
    (room : 0 < reading.stream.flow.capacity) (stuck : reading.stream.flow.advance? = none)
    (waits : reading.read? = none) : reading.Rests := by
  have atEnd (silent : ¬reading.reader.Listens) : reading.stream.flow.isOver = true := by
    rcases Flow.isOver_or_full stuck with atEnd | ⟨hears, -, -⟩
    · exact atEnd
    · exact absurd (sound.listens.2 hears) silent
  have message := Flow.isSome_receive room stuck
  have next := RowStream.isSome_next room stuck
  refine ⟨stuck, ?_⟩
  unfold Reading.read? at waits
  cases reader : reading.reader <;> simp only [reader, Reader.Listens] at atEnd waits ⊢
  · simp [Option.map_eq_none_iff.1 waits] at message
  · exact atEnd id
  · exact next
  · simp [Option.map_eq_none_iff.1 waits] at next
  · simp [Option.map_eq_none_iff.1 waits] at next
  · simp [atEnd] at waits
  · exact atEnd id

namespace System

/-- Whether a party waits for a caller or for a connection that is not free, or has nothing left to
do. -/
def Rests (system : System) : Party → Prop
  | .queued .. | .supplied .. => False
  | .running reading => reading.Rests
  | .doing errand => ∃ connection result, errand = .done connection result
  | .keeping transaction => transaction.phase.Rests (Free system.parties transaction.connection)

/-- The queue of a reading has the length that the engine allows. -/
theorem Reachable.capacity_eq {system : System} (reached : system.Reachable) {reading : Reading}
    (mem : .running reading ∈ system.parties) :
    reading.stream.flow.capacity = system.buffer := by
  refine reached.forall_running
    (motive := fun buffer reading => reading.stream.flow.capacity = buffer) ?_ ?_ ?_ ?_ mem
  · rintro buffer purpose columns (_ | _ | _) response - - <;> rfl
  · exact fun _ _ _ advanced kept => (Reading.keeps_withFlow advanced).capacity.trans kept
  · exact fun _ _ _ done kept => (Reading.leaves_read done).capacity.trans kept
  · exact fun _ _ _ _ done kept => (Reading.leaves_serve done).capacity.trans kept

/-- Once nothing happens by itself, every party rests. -/
theorem Quiet.rests {system : System} (quiet : system.Quiet) (reached : system.Reachable)
    {party : Party} (mem : party ∈ system.parties) : system.Rests party := by
  have capacity : ∀ reading, party = .running reading →
      0 < reading.stream.flow.capacity ∧ reading.Sound := by
    rintro reading rfl
    exact ⟨reached.capacity_eq mem ▸ reached.buffer_pos, reached.sound mem⟩
  obtain ⟨store, buffer, parties⟩ := system
  obtain ⟨rest, rfl⟩ := Multiset.exists_cons_of_mem mem
  have still :
      ∀ {after next}, ¬party.Moves buffer (Free (party ::ₘ rest)) .engine store after next :=
    fun moved => quiet _ (.move moved)
  -- a party that does not rest would have a step to take
  cases party with
  | queued purpose query lent =>
    cases lent with
    | none => exact still (.acquire .crashed)
    | some connection => exact still (.queryLent rfl)
  | supplied purpose query connection => exact still (.queryOwn rfl)
  | running reading =>
    obtain ⟨room, sound⟩ := capacity reading rfl
    have stuck : reading.stream.flow.advance? = none := by
      by_contra moves
      obtain ⟨flow, advanced⟩ := Option.ne_none_iff_exists'.1 moves
      exact still (.task advanced)
    have waits : reading.read? = none := by
      by_contra moves
      obtain ⟨after, done⟩ := Option.ne_none_iff_exists'.1 moves
      exact still (.read done)
    exact Reading.rests sound room stuck waits
  | doing errand =>
    cases errand with
    | waiting job => exact (still (.hire .crashed)).elim
    | holding job connection => exact (still (.perform rfl)).elim
    | calling job connection ending => exact (still .complete).elim
    | done connection result => exact ⟨connection, result, rfl⟩
  | keeping transaction =>
    show transaction.phase.Rests (Free _ transaction.connection)
    cases phase : transaction.phase with
    | idle | ended => trivial
    | claiming request =>
      by_cases free : Free (.keeping transaction ::ₘ rest) transaction.connection
      · cases request with
        | query purpose plan => exact (still (.grantQuery phase free)).elim
        | call call => exact (still (.grantCall phase free rfl)).elim
      · exact (still (.refuse phase free)).elim
    | granted purpose plan =>
      cases compiled : (purpose.plan plan).compile with
      | error e => exact (still (.rejectPlan phase compiled)).elim
      | ok query => exact (quiet _ (.lend phase compiled)).elim
    | calling call response => exact (still (.returned phase)).elim
    | abandoned => exact fun free => still (.undo phase free rfl)
    | undoing ending => exact (still (.undone phase)).elim
    | left => exact fun free => still (.giveUp phase free)

/-- A party that rests takes no step by itself. -/
theorem Rests.still {system : System} {party next : Party} {buffer : Nat} {after : Store}
    (rests : system.Rests party) :
    ¬party.Moves buffer (Free system.parties) .engine system.store after next := by
  intro moved
  cases moved with
  | acquire | queryOwn | queryLent => exact rests
  | task advanced => simp [rests.1] at advanced
  | @read _ reading _ done =>
    obtain ⟨-, ends⟩ : reading.Rests := rests
    unfold Reading.read? at done
    split at done <;> simp_all
  | hire | perform | complete =>
    obtain ⟨_, _, done⟩ := rests
    cases done
  | refuse phase | grantQuery phase | rejectPlan phase | grantCall phase | returned phase
  | undone phase => simp only [System.Rests, phase, Phase.Rests] at rests
  | undo phase free | giveUp phase free =>
    simp only [System.Rests, phase, Phase.Rests] at rests
    exact rests free

/-- If every party rests, nothing happens by itself. -/
theorem quiet_of_rests {system : System} (rests : ∀ party ∈ system.parties, system.Rests party) :
    system.Quiet := by
  intro after step
  cases step with
  | move moved => exact (rests _ (Multiset.mem_cons_self _ _)).still moved
  | lend phase _ =>
    have rests := rests _ (Multiset.mem_cons_self _ _)
    simp only [System.Rests, phase, Phase.Rests] at rests

end System

end TypedQuery
