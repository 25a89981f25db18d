import TypedQuery.Proofs.Engine.Ownership

/-!
# No connection leaks

A caller that is told of the end is told late enough: a query has let go of its connection before
its caller hears of its end, however it ends (`Reading.Frees`). With the books of the connections it
follows that the connection of a call that has returned is back, and that no connection is out once
every handle is finished or dropped and nothing happens by itself any more.
-/

namespace TypedQuery

namespace Flow

variable {flow next : Flow}

/-- A task that has ended holds no connection. -/
theorem holds_of_isOver (atEnd : flow.isOver = true) : flow.holds = false := by
  cases task : flow.task <;> simp_all [isOver, holds]

/-- An error comes into the queue with the end of the task. -/
theorem isOver_of_error_advance (h : flow.advance? = some next)
    (before : ∀ e, .error e ∈ flow.queue → flow.isOver = true) (e : QueryError)
    (mem : .error e ∈ next.queue) : next.isOver = true := by
  -- a task that takes a step is not over, so there was no error in the queue
  have none : ∀ e, .error e ∉ flow.queue := by
    intro e mem
    have atEnd := before e mem
    unfold advance? at h
    unfold isOver at atEnd
    split at h <;> simp_all
  obtain ⟨row, rest, -, -, rfl⟩ | ⟨-, -, rfl⟩ | ⟨row, -, -, -, rfl⟩ | ⟨e, -, -, -, rfl⟩ |
    ⟨-, -, rfl⟩ := advance_cases h
  · exact absurd mem (none _)
  · exact absurd mem (none _)
  · simp [none] at mem
  · rfl
  · rfl

end Flow

namespace RowStream

variable {stream : RowStream}

/-- A call of `next` that returns no row has found that the task has ended. -/
theorem isOver_next {result : Except QueryError (Option Row)} {after : RowStream}
    (h : stream.next? = some (result, after))
    (errors : ∀ e, .error e ∈ stream.flow.queue → stream.flow.isOver = true)
    (last : ∀ row, result ≠ .ok (some row)) : stream.flow.isOver = true := by
  obtain ⟨raw, -, rfl, -⟩ | ⟨raw, rest, -, -, rfl, -⟩ | ⟨e, rest, -, queue, -, -⟩ |
    ⟨-, -, atEnd, -, -⟩ := next_cases h
  · exact absurd rfl (last _)
  · exact absurd rfl (last _)
  · exact errors e (queue ▸ List.mem_cons_self)
  · exact atEnd

/-- A stream that cannot be opened has been found to have a task that has ended. -/
theorem isOver_opened {heard : Option Message × Flow} {e : QueryError}
    (h : stream.flow.receive? = some heard)
    (errors : ∀ e, .error e ∈ stream.flow.queue → stream.flow.isOver = true)
    (failed : (stream.opened heard.1 heard.2).1 = .error e) : stream.flow.isOver = true := by
  obtain ⟨raw, rest, -, same⟩ | ⟨e, rest, queue, -⟩ | ⟨-, atEnd, -⟩ := opened_cases h
  · simp [same] at failed
  · exact errors e (queue ▸ List.mem_cons_self)
  · exact atEnd

end RowStream

/-- Whether the caller has been told of the end of a call that looks after the query. -/
def Reader.IsTold : Reader → Prop
  | .refused _ | .done (.error _) | .done (.ok (.rows _)) | .done (.ok (.row _))
  | .done (.ok .closed) => True
  | .done (.ok .dropped) | .opening | .idle | .collecting _ | .looking | .closing _ => False

namespace Reading

/-- Whether the caller has been told of the end, by the call that looked after the query or by a
call of `next` that returned no row. -/
def IsResolved (reading : Reading) : Prop :=
  reading.reader.IsTold ∨ ∃ result ∈ reading.given, ∀ row, result ≠ .ok (some row)

/-- The invariant by which a caller is told late enough. -/
structure Frees (reading : Reading) : Prop where
  errors : ∀ e, .error e ∈ reading.stream.flow.queue → reading.stream.flow.isOver = true
  resolved : reading.IsResolved → reading.holds = false

variable {reading after : Reading}

/-- A query that has just been started has told its caller nothing. -/
theorem frees_start (buffer : Nat) (purpose : Purpose) (columns : List OutputColumn)
    (supply : Supply) (response : Response) :
    (start buffer purpose columns supply response).Frees := by
  refine ⟨fun e mem => ?_, fun told => ?_⟩
  · cases supply <;> exact absurd mem List.not_mem_nil
  · exact told.elim False.elim fun ⟨_, mem, _⟩ => absurd mem List.not_mem_nil

/-- A caller that takes a step keeps the invariant if what it is told goes together with it. -/
theorem Frees.leaves (frees : reading.Frees) (leaves : reading.Leaves after)
    (resolved : after.IsResolved → reading.IsResolved ∨ reading.holds = false) : after.Frees where
  errors e mem := by
    simpa only [Flow.isOver, leaves.task] using frees.errors e (leaves.queue mem)
  resolved told := leaves.holds_eq ▸ (resolved told).elim frees.resolved id

/-- A step of the task keeps the invariant. -/
theorem Frees.withFlow {flow : Flow} (frees : reading.Frees)
    (h : reading.stream.flow.advance? = some flow) : (reading.withFlow flow).Frees where
  errors := Flow.isOver_of_error_advance h frees.errors
  resolved told := Flow.holds_advance h (frees.resolved told)

/-- A call of `next` that returns no row has found that the query holds no connection. -/
theorem Frees.holds_next {result : Except QueryError (Option Row)} {stream : RowStream}
    (frees : reading.Frees) (h : reading.stream.next? = some (result, stream))
    (last : ∀ row, result ≠ .ok (some row)) : reading.holds = false :=
  Flow.holds_of_isOver (RowStream.isOver_next h frees.errors last)

/-- One more result is a row, or the query was found to hold no connection. -/
theorem Frees.isResolved_give {result : Except QueryError (Option Row)} {stream : RowStream}
    (frees : reading.Frees) (h : reading.stream.next? = some (result, stream))
    (told : ∃ result' ∈ reading.given ++ [result], ∀ row, result' ≠ .ok (some row)) :
    reading.IsResolved ∨ reading.holds = false := by
  obtain ⟨result', mem, last⟩ := told
  rcases List.mem_append.1 mem with before | now
  · exact .inl (.inr ⟨result', before, last⟩)
  · rw [List.mem_singleton.1 now] at last
    exact .inr (frees.holds_next h last)

/-- A step of a waiting caller keeps the invariant. -/
theorem Frees.read (frees : reading.Frees) (h : reading.read? = some after) : after.Frees := by
  refine frees.leaves (leaves_read h) ?_
  obtain ⟨heard, waits, received, rfl⟩ | ⟨rows, ⟨result, stream⟩, waits, called, rfl⟩ |
    ⟨⟨result, stream⟩, waits, called, rfl⟩ | ⟨outcome, waits, atEnd, rfl⟩ := read_cases h
  · unfold afterOpening
    split
    · rintro (told | given)
      · cases purpose : reading.purpose <;> simp [opened, purpose, Reader.IsTold] at told
      · exact .inl (.inr given)
    · next e stream failed =>
      have atEnd := RowStream.isOver_opened received frees.errors (congrArg Prod.fst failed)
      exact fun _ => .inr (Flow.holds_of_isOver atEnd)
  · unfold afterCollecting
    split
    · rintro (told | given)
      · exact told.elim
      · exact frees.isResolved_give called given
    · next same => exact fun _ => .inr (frees.holds_next called (by simp_all))
    · next e same => exact fun _ => .inr (frees.holds_next called (by simp_all))
  · unfold afterLooking
    split
    · rintro (told | given)
      · exact told.elim
      · exact frees.isResolved_give called given
    · next e same => exact fun _ => .inr (frees.holds_next called (by simp_all))
  · exact fun _ => .inr (Flow.holds_of_isOver atEnd)

/-- Whatever is asked of an open stream keeps the invariant. -/
theorem Frees.serve {request : StreamRequest} (frees : reading.Frees)
    (h : reading.serve? request = some after) : after.Frees := by
  refine frees.leaves (leaves_serve h) ?_
  obtain ⟨idle, ⟨⟨result, stream⟩, called, rfl⟩ | rfl | rfl | rfl⟩ := serve_cases h
  · rintro (told | given)
    · simp [idle, Reader.IsTold] at told
    · exact frees.isResolved_give called given
  all_goals
    rintro (told | given)
    · exact told.elim
    · exact .inl (.inr given)

end Reading

namespace System

/-- Callers are told late enough in any run. -/
theorem Reachable.frees {system : System} (reached : system.Reachable) {reading : Reading}
    (mem : .running reading ∈ system.parties) : reading.Frees :=
  reached.forall_running (motive := fun _ reading => reading.Frees)
    (fun _ _ _ _ _ _ _ => Reading.frees_start ..)
    (fun _ _ _ advanced frees => frees.withFlow advanced)
    (fun _ _ _ done frees => frees.read done) (fun _ _ _ _ done frees => frees.serve done) mem

end System

namespace Party

/-- Whether whoever waited for a party has been told of the end. -/
def IsResolved : Party → Prop
  | .queued .. | .supplied .. => False
  | .running reading => reading.IsResolved
  | .doing errand => ∃ connection result, errand = .done connection result
  | .keeping transaction => transaction.phase = .ended

/-- Whether a party is no handle that can still be used: an open stream has told of its end, and a
guard is gone. -/
def IsFinished : Party → Prop
  | .queued .. | .supplied .. | .doing _ => True
  | .running reading => reading.reader = .idle → reading.IsResolved
  | .keeping transaction => transaction.phase ≠ .idle

end Party

namespace System

variable {system : System}

/-- A party that is resolved owns no connection. -/
theorem Reachable.owns_of_isResolved (reached : system.Reachable) {party : Party}
    (mem : party ∈ system.parties) (resolved : party.IsResolved) : party.owns = none := by
  cases party with
  | queued | supplied => exact resolved.elim
  | running reading => simp [Party.owns, (reached.frees mem).resolved resolved]
  | doing errand =>
    obtain ⟨connection, result, rfl⟩ := resolved
    rfl
  | keeping transaction =>
    have atEnd : transaction.phase = .ended := resolved
    simp [Party.owns, atEnd, Phase.isOver]

/-- Once nothing happens by itself any more, a query whose handle is finished holds no connection.
-/
theorem Quiet.holds_of_isFinished (quiet : system.Quiet) (reached : system.Reachable)
    {reading : Reading} (mem : .running reading ∈ system.parties)
    (finished : (Party.running reading).IsFinished) : reading.holds = false := by
  obtain ⟨-, rests⟩ := quiet.rests reached mem
  cases reader : reading.reader with
  | opening | collecting _ | looking | closing _ => simp [reader] at rests
  | idle => exact (reached.frees mem).resolved (finished reader)
  | refused _ | done _ =>
    simp only [reader] at rests
    exact Flow.holds_of_isOver rests

/-- Once nothing happens by itself any more and every handle is finished, no party uses or owns a
connection. -/
theorem Quiet.owns_of_isFinished (quiet : system.Quiet) (reached : system.Reachable)
    (finished : ∀ party ∈ system.parties, party.IsFinished) {party : Party}
    (mem : party ∈ system.parties) : party.owns = none := by
  have uses : ∀ party ∈ system.parties, party.uses = none := by
    intro party mem
    have rests := quiet.rests reached mem
    cases party with
    | queued | supplied => exact rests.elim
    | running reading =>
      simp [Party.uses, quiet.holds_of_isFinished reached mem (finished _ mem)]
    | doing errand =>
      obtain ⟨connection, result, rfl⟩ := rests
      rfl
    | keeping transaction =>
      have rests : transaction.phase.Rests _ := rests
      cases phase : transaction.phase <;> simp_all [Phase.Rests, Party.uses]
  cases party with
  | queued => rfl
  | supplied => exact (quiet.rests reached mem).elim
  | running reading =>
    simp [Party.owns, quiet.holds_of_isFinished reached mem (finished _ mem)]
  | doing errand =>
    obtain ⟨connection, result, rfl⟩ := quiet.rests reached mem
    rfl
  | keeping transaction =>
    -- a transaction without a guard waits for its connection only as long as a party uses it
    have free : Free system.parties transaction.connection := by
      intro party mem
      simp [uses party mem]
    have rests : transaction.phase.Rests (Free system.parties transaction.connection) :=
      quiet.rests reached mem
    have gone : transaction.phase ≠ .idle := finished _ mem
    cases phase : transaction.phase <;> simp_all [Phase.Rests, Party.owns, Phase.isOver]

/-- If no party owns a connection, none is out. -/
theorem Accounts.out_eq_nil (accounts : system.Accounts)
    (none : ∀ party ∈ system.parties, party.owns = none) : system.store.out = [] := by
  refine List.eq_nil_iff_forall_not_mem.2 fun connection mem => ?_
  have out := accounts.owned connection
  have zero : countOf Party.owns system.parties connection = 0 :=
    Multiset.countP_eq_zero.2 fun party mem => by simp [none party mem]
  rw [zero, List.count_eq_zero] at out
  exact out mem

/-- The connection of a party that owns none has been given back. -/
theorem Accounts.takeBacks_eq_one (accounts : system.Accounts) {party : Party}
    (mem : party ∈ system.parties) {connection : ConnectionId}
    (handed : party.handed = some connection) (none : party.owns = none) :
    takeBacks system.store.log connection = 1 ∧ connection ∉ system.store.out := by
  have positive : 0 < countOf Party.handed system.parties connection :=
    Multiset.countP_pos.2 ⟨party, mem, handed⟩
  have once : countOf Party.handed system.parties connection ≤ 1 :=
    accounts.handed connection ▸ accounts.once connection
  -- an owner would be the party that the connection was handed out for
  have unowned : countOf Party.owns system.parties connection = 0 := by
    refine Multiset.countP_eq_zero.2 fun other mem' owns => ?_
    have same := eq_of_countOf_le_one once mem handed mem' (Party.handed_of_owns owns)
    simp [same, none] at owns
  have balance := accounts.balance connection
  rw [← accounts.handed, accounts.owned, unowned] at balance
  refine ⟨by omega, ?_⟩
  rw [← List.count_eq_zero, accounts.owned, unowned]

/-- No connection leaks, whatever is asked of an engine and however the calls of the store end. Each
connection is handed out once, and then it has one owner until it is taken back, which happens once.
When whoever waited for a call has been told of its end, the connection of the call is back; so if
all that are under way have ended or have no connection of their own yet, none is out, and the store
has one to give unless its script is against it. What happens by itself comes to an end, and if
every handle is finished then, no connection is out. -/
theorem Reachable.no_leak (reached : system.Reachable) :
    (∀ connection, handOuts system.store.log connection ≤ 1 ∧
        handOuts system.store.log connection = takeBacks system.store.log connection +
          countOf Party.owns system.parties connection ∧
        (connection ∈ system.store.out ↔ ∃ party ∈ system.parties, party.owns = some connection)) ∧
      (∀ party ∈ system.parties, party.IsResolved → ∀ connection,
        party.handed = some connection →
          takeBacks system.store.log connection = 1 ∧ connection ∉ system.store.out) ∧
      ((∀ party ∈ system.parties, party.IsResolved ∨ party.handed = none) →
        system.store.out = [] ∧
          (0 < system.store.limit → ∀ e after, system.store.acquire = (.error e, after) →
            (answer .acquire "" system.store.rules).1.ending.result = .error e)) ∧
      (system.Quiet → (∀ party ∈ system.parties, party.IsFinished) → system.store.out = []) ∧
      WellFounded fun after before : System => before.Reachable ∧ Step .engine before after := by
  have accounts := reached.accounts
  refine ⟨?_, ?_, ?_, ?_, wellFounded_step⟩
  · intro connection
    have owned := accounts.owned connection
    refine ⟨accounts.once connection, owned ▸ accounts.balance connection, ?_⟩
    rw [← List.count_pos_iff, owned]
    exact Multiset.countP_pos
  · intro party mem resolved connection handed
    exact accounts.takeBacks_eq_one mem handed (reached.owns_of_isResolved mem resolved)
  · intro settled
    have out : system.store.out = [] := accounts.out_eq_nil fun party mem => by
      rcases settled party mem with resolved | unhanded
      · exact reached.owns_of_isResolved mem resolved
      · by_contra owner
        obtain ⟨connection, owns⟩ := Option.ne_none_iff_exists'.1 owner
        simp [Party.handed_of_owns owns] at unhanded
    refine ⟨out, fun room e after acquired => ?_⟩
    obtain ⟨connection, same, -⟩ | ⟨e', same, -, scripted | ⟨-, full⟩⟩ :=
      Store.acquire_cases acquired
    · cases same
    · rw [Except.error.inj same, scripted]
    · simp [out] at full
      omega
  · exact fun quiet finished => accounts.out_eq_nil fun party mem =>
      quiet.owns_of_isFinished reached finished mem

end System

namespace Journal

/-- The connection of the broken query is back when its caller is told of the crash. -/
theorem no_leak_failed :
    ∃ store, System.Reachable ⟨store, 1, .running failed ::ₘ 0⟩ ∧
      takeBacks store.log 1 = 1 ∧ 1 ∉ store.out := by
  obtain ⟨store, reached⟩ := reachable_failed
  obtain ⟨-, resolved, -⟩ := reached.no_leak
  exact ⟨store, reached, resolved (.running failed) (by simp) (.inl trivial) 1 rfl⟩

end Journal

end TypedQuery
