import TypedQuery.Proofs.Engine.Answers
import TypedQuery.Proofs.Store.Calls

/-!
# Every connection has one owner

A connection that was handed out belongs to one party for good (`Party.handed`), and that party owns
it until it is taken back (`Party.owns`): a job from before its call until the call has returned, a
query until its task lets go, a transaction until its end. Every step of a party takes a new
connection, gives back the one that it owns, or leaves the connections alone (`Party.Effect`); so
for each connection the log has one hand-out, and a take-back or an owner, never both
(`System.Accounts`).
-/

namespace TypedQuery

/-! ## Owners -/

/-- The connection that was handed out for a query. -/
def Reading.own? (reading : Reading) : Option ConnectionId :=
  match reading.supply with
  | .own connection => some connection
  | .refused _ | .lent _ => none

/-- A query keeps the connection that was handed out for it. -/
theorem Reading.Keeps.own?_eq {before after : Reading} (kept : before.Keeps after) :
    after.own? = before.own? := by
  simp only [own?, kept.supply]

namespace Party

/-- The connection that was handed out for a party. -/
def handed : Party → Option ConnectionId
  | .queued .. => none
  | .supplied _ _ connection => some connection
  | .running reading => reading.own?
  | .doing (.waiting _) => none
  | .doing (.holding _ connection) | .doing (.calling _ connection _) => some connection
  | .doing (.done connection _) => connection
  | .keeping transaction => some transaction.connection

/-- The connection that a party owns. -/
def owns : Party → Option ConnectionId
  | .queued .. => none
  | .supplied _ _ connection => some connection
  | .running reading => if reading.holds then reading.own? else none
  | .doing (.holding _ connection) | .doing (.calling _ connection _) => some connection
  | .doing (.waiting _) | .doing (.done ..) => none
  | .keeping transaction => if transaction.phase.isOver then none else some transaction.connection

/-- What a party owns was handed out for it. -/
theorem handed_of_owns {party : Party} {connection : ConnectionId}
    (h : party.owns = some connection) : party.handed = some connection := by
  cases party with
  | queued => simp [owns] at h
  | supplied => exact h
  | running reading =>
    simp only [owns] at h
    split at h
    · exact h
    · simp at h
  | doing errand => cases errand <;> simp_all [owns, handed]
  | keeping transaction =>
    simp only [owns] at h
    split at h
    · simp at h
    · exact h

/-- A transaction owns its connection until its end. -/
theorem owns_keeping {transaction : Transaction} (h : transaction.phase.isOver = false) :
    owns (.keeping transaction) = some transaction.connection := by
  simp [owns, h]

/-- A query for which no connection was handed out owns none. -/
theorem owns_running {reading : Reading} (h : reading.own? = none) :
    owns (.running reading) = none := by
  simp [owns, h]

/-- What one step of a party does to the connections: it leaves them alone, with a call or without,
or it takes a new one, or it gives back the one that it owns. -/
inductive Effect (store : Store) (party : Party) (after : Store) (next : Party) : Prop where
  | silent : after = store → next.owns = party.owns → next.handed = party.handed → Effect ..
  | serves (call : Call) : store.Serves call after → call.handedOut? = none →
    call.takenBack? = none → next.owns = party.owns → next.handed = party.handed → Effect ..
  | takes (connection : ConnectionId) : store.HandsOut connection after → party.owns = none →
    party.handed = none → next.owns = some connection → next.handed = some connection → Effect ..
  | gives (connection : ConnectionId) : after = store.release connection →
    party.owns = some connection → next.owns = none → next.handed = party.handed → Effect ..

end Party

/-- A task that has let go of its connection does not get it again. -/
theorem Flow.holds_advance {flow next : Flow} (h : flow.advance? = some next)
    (gone : flow.holds = false) : next.holds = false := by
  obtain ⟨row, rest, task, -, -⟩ | ⟨task, -, -⟩ | ⟨row, task, -, -, -⟩ | ⟨e, -, -, -, rfl⟩ |
    ⟨-, -, rfl⟩ := advance_cases h
  · simp [holds, task] at gone
  · simp [holds, task] at gone
  · simp [holds, task] at gone
  · rfl
  · rfl

/-- A query that holds a connection after a step of its task has held it before. -/
theorem Reading.holds_of_withFlow {reading : Reading} {flow : Flow}
    (h : reading.stream.flow.advance? = some flow) (still : (reading.withFlow flow).holds = true) :
    reading.holds = true := by
  by_contra gone
  have : flow.holds = false := Flow.holds_advance h (Bool.eq_false_iff.2 gone)
  exact Bool.eq_false_iff.1 this still

/-- What comes of the wish for a connection: one is handed out, or the connections are left alone.
-/
theorem Store.Acquires.cases {store after : Store} {result : Except Ending ConnectionId}
    (h : store.Acquires result after) :
    (∃ connection, result = .ok connection ∧ store.HandsOut connection after) ∨
      ∃ ending, result = .error ending ∧ store.Serves (.acquire none) after := by
  cases h with
  | granted acquired =>
    obtain ⟨connection, same, out⟩ | ⟨e, same, -⟩ := Store.acquire_cases acquired
    · exact .inl ⟨connection, by rw [Except.ok.inj same], out⟩
    · cases same
  | refused acquired =>
    obtain ⟨connection, same, -⟩ | ⟨e, -, served, -⟩ := Store.acquire_cases acquired
    · cases same
    · exact .inr ⟨_, rfl, served⟩
  | crashed => exact .inr ⟨_, rfl, rfl, rfl, rfl, rfl⟩

/-- The call of a job. -/
def Job.call (job : Job) (connection : ConnectionId) : Call :=
  match job with
  | .migration sql => .batch connection sql
  | .beginning => .begin connection

/-- A job makes its call. -/
theorem Job.serves_perform {job : Job} {store after : Store} {connection : ConnectionId}
    {ending : Ending} (h : job.perform store connection = (ending, after)) :
    store.Serves (job.call connection) after := by
  cases job with
  | migration sql => exact Store.serves_batch h
  | beginning => exact Store.serves_begin h

/-- The call of a guard. -/
def GuardCall.call (call : GuardCall) (connection : ConnectionId) : Call :=
  match call with
  | .statement sql params => .execute connection sql params
  | .commit => .commit connection
  | .rollback => .rollback connection

/-- A guard makes its call. -/
theorem GuardCall.serves_perform {call : GuardCall} {store after : Store}
    {connection : ConnectionId} {response : Response}
    (h : call.perform store connection = (response, after)) :
    store.Serves (call.call connection) after := by
  cases call with
  | statement sql params => exact Store.serves_execute h
  | commit => exact Store.serves_commit (Prod.ext rfl (Prod.mk.inj h).2)
  | rollback => exact Store.serves_rollback (Prod.ext rfl (Prod.mk.inj h).2)

namespace Party

variable {buffer : Nat} {free : ConnectionId → Prop} {actor : Actor} {store after : Store}

/-- A call on a connection by a party that stays the owner of what it owned. -/
theorem Effect.of_serves {party next : Party} {call : Call} {connection : ConnectionId}
    (served : store.Serves call after) (on : call.on? = some connection)
    (owns : next.owns = party.owns) (handed : next.handed = party.handed) :
    Effect store party after next :=
  have ⟨out, back⟩ := Call.moves_none_of_on on
  .serves call served out back owns handed

/-- The task of a query gives back a connection of its own when it lets go of it. -/
theorem effect_task {reading : Reading} {flow : Flow}
    (h : reading.stream.flow.advance? = some flow) :
    Effect store (.running reading) (reading.storeAfter flow store)
      (.running (reading.withFlow flow)) := by
  have gone := Flow.holds_advance h
  unfold Reading.storeAfter
  -- a connection that is lent is not the query's to give back
  cases supply : reading.supply with
  | refused ending | lent connection =>
    have owner : reading.own? = none := by simp [Reading.own?, supply]
    have still : (reading.withFlow flow).own? = none := owner
    exact .silent rfl ((owns_running still).trans (owns_running owner).symm) rfl
  | own connection =>
    cases before : reading.holds with
    | false =>
      have still : (reading.withFlow flow).holds = false := gone before
      exact .silent (by simp) (by simp [owns, before, still]) rfl
    | true =>
      cases now : flow.holds with
      | true =>
        have still : (reading.withFlow flow).holds = true := now
        have own : (reading.withFlow flow).own? = reading.own? := rfl
        exact .silent (by simp) (by simp [owns, before, still, own]) rfl
      | false =>
        have gone : (reading.withFlow flow).holds = false := now
        exact .gives connection (by simp) (by simp [owns, before, Reading.own?, supply])
          (by simp [owns, gone]) rfl

/-- Whatever its caller does, a query keeps what it owns. -/
theorem effect_of_leaves {reading later : Reading} (leaves : reading.Leaves later) :
    Effect store (.running reading) store (.running later) := by
  have own := leaves.toKeeps.own?_eq
  exact .silent rfl (by simp only [owns, leaves.holds_eq, own]) own

/-- A transaction keeps its connection from phase to phase. -/
theorem effect_phase {transaction after : Transaction} (before : transaction.phase.isOver = false)
    (still : after.phase.isOver = false) (same : after.connection = transaction.connection) :
    Effect store (.keeping transaction) store (.keeping after) :=
  .silent rfl (by rw [owns_keeping still, owns_keeping before, same]) (by simp [handed, same])

/-- A transaction gives its connection back at its end. -/
theorem effect_end {transaction after : Transaction} {phase : Phase}
    (before : transaction.phase.isOver = false) (now : after.phase = phase)
    (same : after.connection = transaction.connection) :
    Effect store (.keeping transaction) (transaction.storeAfter phase store) (.keeping after) := by
  subst now
  unfold Transaction.storeAfter
  split
  · next atEnd =>
    exact .gives _ rfl (owns_keeping before) (by simp [owns, atEnd]) (by simp [handed, same])
  · next still => exact effect_phase before (by simpa using still) same

/-- Every step of a party has one of the effects. -/
theorem Moves.effect {party next : Party} (moved : Moves buffer free actor store party after next) :
    Effect store party after next := by
  cases moved with
  | acquire acquired =>
    obtain ⟨connection, rfl, out⟩ | ⟨ending, rfl, served⟩ := acquired.cases
    · exact .takes connection out rfl rfl rfl rfl
    · exact .serves _ served rfl rfl (owns_running rfl) rfl
  | queryOwn asked => exact .of_serves (Store.serves_query asked) rfl rfl rfl
  | queryLent asked =>
    exact .of_serves (Store.serves_query asked) rfl (owns_running rfl) rfl
  | task advanced => exact effect_task advanced
  | read done => exact effect_of_leaves (Reading.leaves_read done)
  | serve done => exact effect_of_leaves (Reading.leaves_serve done)
  | hire acquired =>
    obtain ⟨connection, rfl, out⟩ | ⟨ending, rfl, served⟩ := acquired.cases
    · exact .takes connection out rfl rfl rfl rfl
    · exact .serves _ served rfl rfl rfl rfl
  | @perform _ _ job connection ending performed =>
    have on : (job.call connection).on? = some connection := by cases job <;> rfl
    exact .of_serves (Job.serves_perform performed) on rfl rfl
  | @complete _ job connection ending =>
    rcases job with sql | _
    · exact .gives connection rfl rfl rfl rfl
    · rcases ending with _ | e | _
      · exact .silent rfl rfl rfl
      · exact .gives connection rfl rfl rfl rfl
      · exact .gives connection rfl rfl rfl rfl
  | ask idle => exact effect_phase (by rw [idle]; rfl) rfl rfl
  | @refuse _ _ request claiming _ =>
    have still : request.refusedPhase.isOver = false := by rcases request with _ | _ | _ | _ <;> rfl
    exact effect_phase (by rw [claiming]; rfl) still rfl
  | grantQuery claiming _ => exact effect_phase (by rw [claiming]; rfl) rfl rfl
  | rejectPlan granted _ => exact effect_phase (by rw [granted]; rfl) rfl rfl
  | @grantCall _ _ transaction call response claiming _ performed =>
    have before : transaction.phase.isOver = false := by rw [claiming]; rfl
    have on : (call.call transaction.connection).on? = some transaction.connection := by
      cases call <;> rfl
    refine .of_serves (GuardCall.serves_perform performed) on ?_ ?_
    · rw [owns_keeping before, owns_keeping (by cases call <;> rfl)]
      cases call <;> rfl
    · cases call <;> rfl
  | returned calling => exact effect_end (by rw [calling]; rfl) rfl rfl
  | drop idle => exact effect_phase (by rw [idle]; rfl) rfl rfl
  | @dropOutside _ _ transaction _ idle _ rolledBack =>
    have before : transaction.phase.isOver = false := by rw [idle]; rfl
    exact .of_serves (Store.serves_rollback rolledBack) rfl (owns_keeping before).symm rfl
  | leave idle _ => exact effect_phase (by rw [idle]; rfl) rfl rfl
  | @undo _ _ transaction _ abandoned _ rolledBack =>
    have before : transaction.phase.isOver = false := by rw [abandoned]; rfl
    exact .of_serves (Store.serves_rollback rolledBack) rfl (owns_keeping before).symm rfl
  | undone undoing => exact effect_end (by rw [undoing]; rfl) rfl rfl
  | giveUp left _ => exact effect_end (by rw [left]; rfl) rfl rfl

end Party

/-! ## Accounts -/

/-- The number of parties that have a connection in some way. -/
def countOf (way : Party → Option ConnectionId) (parties : Multiset Party)
    (connection : ConnectionId) : Nat :=
  parties.countP fun party => way party = some connection

/-- One party more. -/
theorem countOf_cons (way : Party → Option ConnectionId) (party : Party) (parties : Multiset Party)
    (connection : ConnectionId) :
    countOf way (party ::ₘ parties) connection =
      countOf way parties connection + if way party = some connection then 1 else 0 :=
  Multiset.countP_cons ..

/-- Of two parties, only one can have a connection that is had once. -/
theorem ne_of_countOf_cons {way : Party → Option ConnectionId} {party other : Party}
    {rest : Multiset Party} {connection : ConnectionId}
    (once : countOf way (party ::ₘ rest) connection ≤ 1) (h : way party = some connection)
    (mem : other ∈ rest) : way other ≠ some connection := by
  intro h'
  have positive : 0 < countOf way rest connection := Multiset.countP_pos.2 ⟨other, mem, h'⟩
  rw [countOf_cons, if_pos h] at once
  omega

/-- If no two parties have a connection, then two that have it are one. -/
theorem eq_of_countOf_le_one {way : Party → Option ConnectionId} {parties : Multiset Party}
    {connection : ConnectionId} (once : countOf way parties connection ≤ 1) {one other : Party}
    (mem : one ∈ parties) (h : way one = some connection) (mem' : other ∈ parties)
    (h' : way other = some connection) : other = one := by
  obtain ⟨rest, rfl⟩ := Multiset.exists_cons_of_mem mem
  rcases Multiset.mem_cons.1 mem' with same | more
  · exact same
  · exact absurd h' (ne_of_countOf_cons once h more)

namespace System

/-- The books of a system: each connection that was handed out was handed out once and for one
party, and since then it was taken back or has an owner. -/
structure Accounts (system : System) : Prop where
  handed : ∀ connection,
    countOf Party.handed system.parties connection = handOuts system.store.log connection
  owned : ∀ connection,
    system.store.out.count connection = countOf Party.owns system.parties connection
  balance : ∀ connection, handOuts system.store.log connection =
    takeBacks system.store.log connection + system.store.out.count connection
  once : ∀ connection, handOuts system.store.log connection ≤ 1
  fresh : ∀ connection, system.store.issued < connection →
    handOuts system.store.log connection = 0

/-- Every step of a party keeps the books. -/
theorem Accounts.effect {store after : Store} {buffer : Nat} {party next : Party}
    {rest : Multiset Party} (accounts : Accounts ⟨store, buffer, party ::ₘ rest⟩)
    (effect : Party.Effect store party after next) : Accounts ⟨after, buffer, next ::ₘ rest⟩ := by
  obtain ⟨handed, owned, balance, once, fresh⟩ := accounts
  simp only [countOf_cons] at handed owned balance once fresh
  cases effect with
  | silent same owns for_ =>
    subst same
    exact ⟨by simpa only [countOf_cons, for_] using handed,
      by simpa only [countOf_cons, owns] using owned, balance, once, fresh⟩
  | serves call served out back owns for_ =>
    refine ⟨?_, ?_, ?_, ?_, ?_⟩ <;> intro connection
    · simpa [countOf_cons, for_, served.log, handOuts_append, out] using handed connection
    · simpa [countOf_cons, owns, served.out] using owned connection
    · simpa [served.log, served.out, handOuts_append, takeBacks_append, out, back]
        using balance connection
    · simpa [served.log, handOuts_append, out] using once connection
    · simpa [served.log, served.issued, handOuts_append, out] using fresh connection
  | takes taken given none none' owns for_ =>
    -- the number is new, so all counts of it are zero
    have new : handOuts store.log taken = 0 :=
      fresh taken (by rw [given.fresh]; exact Nat.lt_succ_self _)
    refine ⟨?_, ?_, ?_, ?_, ?_⟩ <;> intro connection
    · have := handed connection
      simp_all [countOf_cons, given.log, handOuts_append, Call.handedOut?]
    · have := owned connection
      simp_all [countOf_cons, given.out, List.count_append, List.count_singleton]
    · have := balance connection
      simp only [given.log, given.out, handOuts_append, takeBacks_append, Call.handedOut?,
        Call.takenBack?, List.count_append, List.count_singleton, Option.some.injEq, beq_iff_eq,
        reduceCtorEq, if_false]
      omega
    · have := once connection
      simp only [given.log, handOuts_append, Call.handedOut?, Option.some.injEq]
      split
      · next same => rw [← same, new]
      · exact this
    · intro later
      rw [given.issued] at later
      have before := fresh connection (Nat.lt_trans (given.fresh ▸ Nat.lt_succ_self _) later)
      simp [given.log, handOuts_append, Call.handedOut?, before, Nat.ne_of_lt later]
  | gives given same owns none for_ =>
    subst same
    -- the connection is out once, and the party is its only owner
    have out : store.out.count given = 1 ∧ countOf Party.owns rest given = 0 := by
      have := owned given
      have := balance given
      have := once given
      simp only [owns, if_true] at *
      omega
    refine ⟨?_, ?_, ?_, ?_, ?_⟩ <;> intro connection
    · simpa [countOf_cons, for_, Store.release, handOuts_append, Call.handedOut?]
        using handed connection
    · have := owned connection
      simp only [Store.count_out_release, countOf_cons, none, reduceCtorEq, if_false]
      split
      · next same => rw [← same, out.2]
      · next other => simpa [owns, other] using this
    · have := balance connection
      have kept : (store.release given).log =
          store.log ++ [.release given (store.busy.contains given)] :=
        rfl
      simp only [Store.count_out_release, kept, handOuts_append, takeBacks_append, Call.handedOut?,
        Call.takenBack?, reduceCtorEq, if_false, Option.some.injEq]
      split
      · next same =>
        rw [← same] at this ⊢
        omega
      · omega
    · simpa [Store.release, handOuts_append, Call.handedOut?] using once connection
    · simpa [Store.release, handOuts_append, Call.handedOut?] using fresh connection

/-- The books are right after any run. -/
theorem Reachable.accounts {system : System} (reached : system.Reachable) : system.Accounts := by
  induction reached with
  | start limit rules buffer =>
    refine ⟨?_, ?_, ?_, ?_, ?_⟩ <;> simp [System.start, countOf, handOuts, takeBacks]
  | step _ step ih =>
    cases step with
    | move moved => exact ih.effect moved.effect
    | @lend _ _ _ transaction _ _ _ granted _ =>
      obtain ⟨handed, owned, balance, once, fresh⟩ := ih
      -- the transaction stays the owner of what it lends
      have open_ : transaction.phase.isOver = false := by rw [granted]; rfl
      refine ⟨?_, ?_, balance, once, fresh⟩
      · simpa [countOf_cons, Party.handed] using handed
      · intro connection
        have := owned connection
        simp only [countOf_cons] at this ⊢
        rw [Party.owns_keeping open_] at this
        rw [Party.owns_keeping rfl, this]
        simp [Party.owns]
    | run compiled | send job =>
      obtain ⟨handed, owned, balance, once, fresh⟩ := ih
      refine ⟨?_, ?_, balance, once, fresh⟩
      · simpa [countOf_cons, Party.handed] using handed
      · simpa [countOf_cons, Party.owns] using owned
    | rescript rules => exact ⟨ih.handed, ih.owned, ih.balance, ih.once, ih.fresh⟩

end System

end TypedQuery
