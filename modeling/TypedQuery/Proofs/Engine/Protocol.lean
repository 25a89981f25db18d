import TypedQuery.Proofs.Engine.Turns

/-!
# The protocol of a transaction

On the connection of a transaction, the calls are a begin, then queries and statements, then at most
one commit, then at most one roll-back (`Transaction.Follows`). Which of the two there were is
recorded in the transaction and goes together with how far it is (`Transaction.Coherent`): a
roll-back comes only if no commit succeeded, and if the transaction comes to its end without a
successful commit it has been rolled back, unless its guard was dropped where no task could wait.

Queries of the transaction make their calls on the borrowed connection by themselves. They do it
before any commit or roll-back, since these wait until the connection is free (`System.Orderly`).
-/

namespace TypedQuery

/-- How far a transaction is goes together with how its commit ended, whether it was rolled back,
and whether its guard was dropped where no task could wait. -/
def Phase.Accords (commit : Option Ending) (rolledBack droppedOutside : Bool) : Phase → Prop
  | .idle | .claiming _ | .granted .. | .calling (.statement ..) _ =>
    commit = none ∧ rolledBack = false ∧ droppedOutside = false
  | .calling .commit response =>
    commit = some response.ending ∧ rolledBack = false ∧ droppedOutside = false
  | .calling .rollback _ => commit = none ∧ rolledBack = true ∧ droppedOutside = false
  | .abandoned => commit ≠ some .success ∧ rolledBack = false ∧ droppedOutside = false
  | .undoing _ => commit ≠ some .success ∧ rolledBack = true
  | .left => commit = none ∧ rolledBack = false ∧ droppedOutside = true
  | .ended =>
    (commit ≠ some .success ∧ rolledBack = true) ∨ (commit = some .success ∧ rolledBack = false) ∨
      (commit = none ∧ rolledBack = false ∧ droppedOutside = true)

namespace Transaction

/-- The calls by which a transaction has been ended so far. -/
def endCalls (transaction : Transaction) : List Call :=
  (if transaction.commit.isSome then [.commit transaction.connection] else []) ++
    if transaction.rolledBack then [.rollback transaction.connection] else []

/-- The calls on a connection are those of a transaction. -/
def Follows (transaction : Transaction) (calls : List Call) : Prop :=
  ∃ steps, (∀ step ∈ steps, step.IsStep) ∧
    calls = .begin transaction.connection :: (steps ++ transaction.endCalls)

/-- What is recorded of a transaction fits together. -/
structure Coherent (transaction : Transaction) : Prop where
  ended :
    transaction.phase.Accords transaction.commit transaction.rolledBack transaction.droppedOutside
  claimed : ∀ request, transaction.phase = .claiming request → request ∈ transaction.asked
  committed : transaction.commit.isSome = true → .call .commit ∈ transaction.asked

variable {transaction next : Transaction}

/-- A call leaves the connection what it is. -/
theorem connection_call (call : GuardCall) (response : Response) :
    (transaction.call call response).connection = transaction.connection := by
  cases call <;> rfl

/-- A step of a transaction keeps its record coherent. -/
theorem Coherent.move {buffer : Nat} {free : ConnectionId → Prop} {actor : Actor}
    {store after : Store} (coherent : transaction.Coherent)
    (moved : Party.Moves buffer free actor store (.keeping transaction) after (.keeping next)) :
    next.Coherent := by
  obtain ⟨ended, claimed, committed⟩ := coherent
  cases moved with
  | @ask _ _ request idle =>
    rw [idle] at ended
    refine ⟨ended, ?_, fun done => ?_⟩
    · rintro _ ⟨⟩
      simp [Transaction.ask]
    · simp [Transaction.ask, committed done]
  | @refuse _ _ request claiming _ =>
    rw [claiming] at ended
    refine ⟨?_, ?_, committed⟩
    · obtain ⟨commit, rolledBack, inside⟩ := ended
      rcases request with _ | _ | _ | _ <;>
        simp [Transaction.answer, Request.refusedPhase, Phase.Accords, commit, rolledBack, inside]
    · rcases request with _ | _ | _ | _ <;> rintro _ ⟨⟩
  | grantQuery claiming _ =>
    rw [claiming] at ended
    exact ⟨ended, by rintro _ ⟨⟩, committed⟩
  | rejectPlan granted _ =>
    rw [granted] at ended
    exact ⟨ended, by rintro _ ⟨⟩, committed⟩
  | @grantCall _ _ _ call response claiming _ _ =>
    have asked := claimed _ claiming
    rw [claiming] at ended
    obtain ⟨commit, rolledBack, inside⟩ := ended
    cases call with
    | statement => exact ⟨⟨commit, rolledBack, inside⟩, by rintro _ ⟨⟩, committed⟩
    | commit => exact ⟨⟨rfl, rolledBack, inside⟩, by rintro _ ⟨⟩, fun _ => asked⟩
    | rollback => exact ⟨⟨commit, rfl, inside⟩, by rintro _ ⟨⟩, committed⟩
  | @returned _ _ call response calling =>
    rw [calling] at ended
    cases call with
    | statement => exact ⟨ended, by rintro _ ⟨⟩, committed⟩
    | rollback =>
      obtain ⟨commit, rolledBack, -⟩ := ended
      exact ⟨.inl ⟨by simp [Transaction.answer, commit], rolledBack⟩, by rintro _ ⟨⟩, committed⟩
    | commit =>
      -- unless it succeeded, the transaction is still to be rolled back
      obtain ⟨commit, rolledBack, inside⟩ := ended
      cases ending : response.ending <;> rw [ending] at commit
      · exact ⟨.inr (.inl ⟨commit, rolledBack⟩), by rintro _ ⟨⟩, committed⟩
      all_goals
        exact ⟨⟨by simp [Transaction.answer, commit], rolledBack, inside⟩, by rintro _ ⟨⟩,
          committed⟩
  | drop idle =>
    rw [idle] at ended
    obtain ⟨commit, rolledBack, inside⟩ := ended
    exact ⟨⟨by simp [commit], rolledBack, inside⟩, by rintro _ ⟨⟩, committed⟩
  | dropOutside idle _ _ =>
    rw [idle] at ended
    exact ⟨⟨by simp [Transaction.undo, ended.1], rfl⟩, by rintro _ ⟨⟩, committed⟩
  | leave idle _ =>
    rw [idle] at ended
    exact ⟨⟨ended.1, ended.2.1, rfl⟩, by rintro _ ⟨⟩, committed⟩
  | undo abandoned _ _ =>
    rw [abandoned] at ended
    exact ⟨⟨ended.1, rfl⟩, by rintro _ ⟨⟩, committed⟩
  | undone undoing =>
    rw [undoing] at ended
    exact ⟨.inl ended, by rintro _ ⟨⟩, committed⟩
  | giveUp left _ =>
    rw [left] at ended
    exact ⟨.inr (.inr ended), by rintro _ ⟨⟩, committed⟩

/-- One more step before any end. -/
theorem Follows.step {calls : List Call} {call : Call} (follows : transaction.Follows calls)
    (step : call.IsStep) (going : transaction.commit = none ∧ transaction.rolledBack = false) :
    transaction.Follows (calls ++ [call]) := by
  obtain ⟨steps, all, rfl⟩ := follows
  have none : transaction.endCalls = [] := by simp [endCalls, going.1, going.2]
  refine ⟨steps ++ [call], ?_, by simp [none]⟩
  intro other mem
  rcases List.mem_append.1 mem with before | last
  · exact all other before
  · rw [List.mem_singleton.1 last]
    exact step

/-- One more call that ends the transaction. -/
theorem Follows.finish {calls : List Call} {call : Call} (follows : transaction.Follows calls)
    (same : next.connection = transaction.connection)
    (ends : next.endCalls = transaction.endCalls ++ [call]) :
    next.Follows (calls ++ [call]) := by
  obtain ⟨steps, all, rfl⟩ := follows
  exact ⟨steps, all, by simp [ends, same]⟩

/-- The calls on a connection are those of a transaction whatever step the transaction takes. -/
theorem Follows.move {buffer : Nat} {free : ConnectionId → Prop} {actor : Actor}
    {store after : Store} (follows : transaction.Follows (wire store.log transaction.connection))
    (coherent : transaction.Coherent)
    (moved : Party.Moves buffer free actor store (.keeping transaction) after (.keeping next)) :
    next.Follows (wire after.log next.connection) := by
  have ended := coherent.ended
  -- only a call on the connection adds to the calls, and it adds one
  cases moved with
  | ask | refuse | grantQuery | rejectPlan | drop | leave => exact follows
  | @grantCall _ _ _ call response claiming _ performed =>
    rw [claiming] at ended
    obtain ⟨commit, rolledBack, -⟩ := ended
    have served := GuardCall.serves_perform performed
    cases call with
    | statement sql params =>
      simp only [served.log, wire_append, GuardCall.call, Call.on?, Transaction.call, if_true]
      exact follows.step trivial ⟨commit, rolledBack⟩
    | commit | rollback =>
      simp only [served.log, wire_append, GuardCall.call, Call.on?, Transaction.call, if_true]
      exact follows.finish rfl (by simp [Transaction.endCalls, commit, rolledBack])
  | returned | undone | giveUp =>
    rw [Transaction.mute_storeAfter]
    exact follows
  | dropOutside idle _ rolledBack =>
    rw [idle] at ended
    simp only [(Store.serves_rollback rolledBack).log, wire_append, Call.on?, Transaction.undo,
      if_true]
    exact follows.finish rfl (by simp [Transaction.endCalls, ended.2.1])
  | undo abandoned _ rolledBack =>
    rw [abandoned] at ended
    simp only [(Store.serves_rollback rolledBack).log, wire_append, Call.on?, Transaction.undo,
      if_true]
    exact follows.finish rfl (by simp [Transaction.endCalls, ended.2.1])

end Transaction

namespace Party

/-- What the log says of the connection of a party that has begun a transaction or is about to. -/
def Expects (log : List Call) : Party → Prop
  | .doing (.holding .beginning connection) => wire log connection = []
  | .doing (.calling .beginning connection _) => wire log connection = [.begin connection]
  | .keeping transaction => transaction.Follows (wire log transaction.connection)
  | .queued .. | .supplied .. | .running _ | .doing (.waiting _)
  | .doing (.holding (.migration _) _) | .doing (.calling (.migration _) ..) | .doing (.done ..) =>
    True

variable {party : Party} {log later : List Call}

/-- A transaction keeps its connection, and if its commit or its roll-back has been called by a
step, the connection was free. -/
theorem Moves.endCalls {transaction next : Transaction} {buffer : Nat}
    {free : ConnectionId → Prop} {actor : Actor} {store after : Store}
    (moved : Moves buffer free actor store (.keeping transaction) after (.keeping next)) :
    next.connection = transaction.connection ∧
      ((next.commit = transaction.commit ∧ next.rolledBack = transaction.rolledBack) ∨
        free transaction.connection) := by
  cases moved with
  | grantCall _ isFree _ => exact ⟨by rw [Transaction.connection_call], .inr isFree⟩
  | dropOutside _ isFree _ | undo _ isFree _ => exact ⟨rfl, .inr isFree⟩
  | _ => exact ⟨rfl, .inl ⟨rfl, rfl⟩⟩

/-- Only calls on the connection that was handed out for a party matter to it. -/
theorem Expects.congr (expects : party.Expects log)
    (same : ∀ connection, party.handed = some connection →
      wire later connection = wire log connection) : party.Expects later := by
  cases party with
  | queued | supplied | running => trivial
  | doing errand =>
    cases errand with
    | waiting | done => trivial
    | holding job connection =>
      cases job with
      | migration => trivial
      | beginning => exact (same _ rfl).trans expects
    | calling job connection =>
      cases job with
      | migration => trivial
      | beginning => exact (same _ rfl).trans expects
  | keeping transaction =>
    show transaction.Follows (wire later transaction.connection)
    rw [same _ rfl]
    exact expects

variable {buffer : Nat} {free : ConnectionId → Prop} {actor : Actor} {store after : Store}

/-- What the log says of a party stays true when the party takes a step. -/
theorem Expects.move {next : Party} (expects : party.Expects store.log)
    (coherent : ∀ transaction, party = .keeping transaction → transaction.Coherent)
    (unissued : ∀ connection, store.issued < connection → wire store.log connection = [])
    (moved : Moves buffer free actor store party after next) : next.Expects after.log := by
  cases party with
  | queued =>
    cases moved with
    | @acquire _ _ _ _ result => cases result <;> trivial
    | queryLent => trivial
  | supplied | running => cases moved <;> trivial
  | doing errand =>
    cases moved with
    | @hire _ _ job _ acquired =>
      obtain ⟨connection, rfl, out⟩ | ⟨ending, rfl, -⟩ := acquired.cases
      · cases job with
        | migration => trivial
        | beginning =>
          -- nothing was called on a connection that has just been issued
          have silent := unissued connection (out.fresh ▸ Nat.lt_succ_self _)
          exact (Store.mute_acquires acquired connection).trans silent
      · trivial
    | @perform _ _ job connection ending performed =>
      cases job with
      | migration => trivial
      | beginning =>
        have before : wire store.log connection = [] := expects
        simp [Expects, (Store.serves_begin performed).log, wire_append, before, Call.on?]
    | @complete _ job connection ending =>
      cases job with
      | migration => trivial
      | beginning =>
        cases ending with
        | success =>
          have begun : wire store.log connection = [.begin connection] := expects
          exact ⟨[], by simp, begun⟩
        | failure | crash => trivial
  | keeping transaction =>
    obtain ⟨then_, rfl⟩ : ∃ then_, next = .keeping then_ := by cases moved <;> exact ⟨_, rfl⟩
    exact Transaction.Follows.move expects (coherent _ rfl) moved

/-- A party that keeps a transaction after its step has kept it before or has just begun it. -/
theorem Moves.keeping_cases {transaction : Transaction}
    (moved : Moves buffer free actor store party after (.keeping transaction)) :
    (∃ before, party = .keeping before) ∨
      ∃ connection, party = .doing (.calling .beginning connection .success) ∧
        transaction = { connection } := by
  generalize keeps : Party.keeping transaction = next at moved
  cases moved with
  | @acquire _ _ _ _ result => cases result <;> simp [afterAcquire] at keeps
  | @hire _ _ _ result => cases result <;> simp [afterHire] at keeps
  | @complete _ job connection ending =>
    cases job <;> cases ending <;> simp [afterJob] at keeps
    exact .inr ⟨connection, rfl, keeps⟩
  | queryOwn | queryLent | task | read | serve | perform => simp at keeps
  | _ => exact .inl ⟨_, rfl⟩

/-- A query that borrows a connection after its step has borrowed it before. -/
theorem Moves.borrows {next : Party} {connection : ConnectionId}
    (moved : Moves buffer free actor store party after next)
    (h : next.borrows = some connection) : party.borrows = some connection := by
  have waits {reading later : Reading} (leaves : reading.Leaves later) :
      Party.borrows (.running later) = Party.borrows (.running reading) := by
    simp only [Party.borrows, leaves.holds_eq, leaves.supply]
  cases moved with
  | @acquire _ _ _ _ result =>
    cases result <;> simp [Party.borrows, afterAcquire, Reading.start] at h
  | queryOwn => simp [Party.borrows, Reading.start] at h
  | queryLent => exact h
  | @task _ reading flow advanced =>
    obtain ⟨lent, still⟩ := borrows_running.1 h
    exact borrows_running.2 ⟨lent, Reading.holds_of_withFlow advanced still⟩
  | read done => exact waits (Reading.leaves_read done) ▸ h
  | serve done => exact waits (Reading.leaves_serve done) ▸ h
  | @hire _ _ _ result => cases result <;> simp [Party.borrows, afterHire] at h
  | @complete _ job _ ending => cases job <;> cases ending <;> simp [Party.borrows, afterJob] at h
  | _ => simp [Party.borrows] at h

end Party

namespace System

variable {system : System}

/-- The record of every transaction is coherent in any run. -/
theorem Reachable.coherent (reached : system.Reachable)
    {transaction : Transaction} (mem : .keeping transaction ∈ system.parties) :
    transaction.Coherent := by
  refine reached.forall_party (motive := fun _ party =>
    ∀ transaction, party = .keeping transaction → transaction.Coherent) ?_ ?_ ?_ ?_ _ mem _ rfl
  · simp
  · simp
  · rintro buffer transaction purpose plan query granted - coherent
    refine ⟨by simp, ?_⟩
    rintro _ ⟨⟩
    obtain ⟨ended, -, committed⟩ := coherent _ rfl
    rw [granted] at ended
    exact ⟨ended, by rintro _ ⟨⟩, committed⟩
  · rintro buffer free actor store party after next - moved coherent transaction rfl
    obtain ⟨before, rfl⟩ | ⟨connection, -, rfl⟩ := moved.keeping_cases
    · exact (coherent _ rfl).move moved
    · exact ⟨⟨rfl, rfl, rfl⟩, by rintro _ ⟨⟩, by rintro ⟨⟩⟩

/-- The log says of every party what it should, and no transaction whose connection is borrowed has
been ended. -/
structure Orderly (system : System) : Prop where
  expects : ∀ party ∈ system.parties, party.Expects system.store.log
  borrowed : ∀ transaction, .keeping transaction ∈ system.parties → ∀ party ∈ system.parties,
    party.borrows = some transaction.connection →
      transaction.commit = none ∧ transaction.rolledBack = false

/-- What the log says of a party stays true when another party takes a step. -/
theorem Orderly.expects_rest {actor : Actor} {store after : Store} {buffer : Nat}
    {party next other : Party} {rest : Multiset Party}
    (orderly : Orderly ⟨store, buffer, party ::ₘ rest⟩)
    (turns : Turns ⟨store, buffer, party ::ₘ rest⟩)
    (accounts : Accounts ⟨store, buffer, party ::ₘ rest⟩)
    (moved : party.Moves buffer (Free (party ::ₘ rest)) actor store after next)
    (mem : other ∈ rest) : other.Expects after.log := by
  have before : other.Expects store.log := orderly.expects _ (Multiset.mem_cons_of_mem mem)
  rcases moved.speaks with mute | ⟨call, connection, speaks⟩
  · exact before.congr fun _ _ => mute _
  by_cases concerned : other.handed = some connection
  · -- the connection was handed out for the other party, so the call is a step on a borrowed one
    rcases speaks.whose with handed | ⟨borrows, step⟩
    · have once : countOf Party.handed (party ::ₘ rest) connection ≤ 1 :=
        accounts.handed connection ▸ accounts.once connection
      exact absurd concerned (ne_of_countOf_cons once handed mem)
    · have unused := ne_of_countOf_cons (turns.once connection) (Party.uses_of_borrows borrows) mem
      cases other with
      | queued | supplied | running => trivial
      | doing errand =>
        cases errand with
        | waiting | done => trivial
        | holding | calling => exact absurd concerned unused
      | keeping transaction =>
        obtain rfl : transaction.connection = connection := Option.some.inj concerned
        have going := orderly.borrowed transaction (Multiset.mem_cons_of_mem mem) party
          (Multiset.mem_cons_self _ _) borrows
        show transaction.Follows (wire after.log transaction.connection)
        rw [speaks.log, wire_append, if_pos speaks.on]
        exact Transaction.Follows.step before step going
  · refine before.congr fun own handed => ?_
    have elsewhere : call.on? ≠ some own := by
      rw [speaks.on]
      rintro ⟨⟩
      exact concerned handed
    rw [speaks.log, wire_append, if_neg elsewhere, List.append_nil]

/-- Every step of a party keeps a system orderly. -/
theorem Orderly.move {actor : Actor} {store after : Store} {buffer : Nat} {party next : Party}
    {rest : Multiset Party} (orderly : Orderly ⟨store, buffer, party ::ₘ rest⟩)
    (turns : Turns ⟨store, buffer, party ::ₘ rest⟩)
    (accounts : Accounts ⟨store, buffer, party ::ₘ rest⟩)
    (coherent : ∀ transaction, party = .keeping transaction → transaction.Coherent)
    (moved : party.Moves buffer (Free (party ::ₘ rest)) actor store after next) :
    Orderly ⟨after, buffer, next ::ₘ rest⟩ := by
  have first : party ∈ party ::ₘ rest := Multiset.mem_cons_self _ _
  refine ⟨Multiset.forall_mem_cons.2 ⟨?_, fun other mem => ?_⟩, ?_⟩
  · exact (orderly.expects _ first).move coherent
      (fun _ beyond => (turns.unissued _ beyond).2) moved
  · exact orderly.expects_rest turns accounts moved mem
  · intro transaction keeps other mem borrows
    rcases Multiset.mem_cons.1 keeps with rfl | keeps
    · -- a transaction is ended by a call on its free connection, which no query borrows then
      have lends : other ∈ rest := by
        rcases Multiset.mem_cons.1 mem with rfl | lends
        · simp [Party.borrows] at borrows
        · exact lends
      have uses := Party.uses_of_borrows borrows
      obtain ⟨was, rfl⟩ | ⟨connection, -, rfl⟩ := moved.keeping_cases
      · obtain ⟨same, ⟨commit, rolledBack⟩ | free⟩ := moved.endCalls
        · rw [commit, rolledBack]
          exact orderly.borrowed was first other (Multiset.mem_cons_of_mem lends) (same ▸ borrows)
        · exact absurd (same ▸ uses) (free other (Multiset.mem_cons_of_mem lends))
      · exact ⟨rfl, rfl⟩
    · have kept := orderly.borrowed transaction (Multiset.mem_cons_of_mem keeps)
      rcases Multiset.mem_cons.1 mem with rfl | lends
      · exact kept party first (moved.borrows borrows)
      · exact kept other (Multiset.mem_cons_of_mem lends) borrows

/-- Handing a connection on to a query keeps a system orderly. -/
theorem Orderly.lend {store : Store} {buffer : Nat} {transaction : Transaction} {purpose : Purpose}
    {plan : Plan} {query : CompiledQuery} {rest : Multiset Party}
    (orderly : Orderly ⟨store, buffer, .keeping transaction ::ₘ rest⟩)
    (accounts : Accounts ⟨store, buffer, .keeping transaction ::ₘ rest⟩)
    (coherent : transaction.Coherent) (granted : transaction.phase = .granted purpose plan) :
    Orderly ⟨store, buffer, .queued purpose query (some transaction.connection) ::ₘ
      .keeping { transaction with phase := .idle } ::ₘ rest⟩ := by
  obtain ⟨expects, borrowed⟩ := orderly
  obtain ⟨own, others⟩ := Multiset.forall_mem_cons.1 expects
  have going : transaction.commit = none ∧ transaction.rolledBack = false := by
    have ended := coherent.ended
    rw [granted] at ended
    exact ⟨ended.1, ended.2.1⟩
  have once : countOf Party.handed (.keeping transaction ::ₘ rest) transaction.connection ≤ 1 :=
    accounts.handed transaction.connection ▸ accounts.once transaction.connection
  refine ⟨Multiset.forall_mem_cons.2 ⟨trivial, Multiset.forall_mem_cons.2 ⟨own, others⟩⟩, ?_⟩
  intro other keeps party mem borrows
  simp only [Multiset.mem_cons, reduceCtorEq, Party.keeping.injEq, false_or] at keeps
  rcases keeps with rfl | keeps
  · exact going
  · rcases Multiset.mem_cons.1 mem with rfl | mem
    · -- no other transaction has the connection
      exact absurd borrows.symm (ne_of_countOf_cons once rfl keeps)
    · rcases Multiset.mem_cons.1 mem with rfl | mem
      · simp [Party.borrows] at borrows
      · exact borrowed other (Multiset.mem_cons_of_mem keeps) party
          (Multiset.mem_cons_of_mem mem) borrows

/-- Every run is orderly. -/
theorem Reachable.orderly {system : System} (reached : system.Reachable) : system.Orderly := by
  induction reached with
  | start limit rules buffer => refine ⟨?_, ?_⟩ <;> simp [System.start]
  | step reached step ih =>
    cases step with
    | @move _ _ _ _ party _ rest moved =>
      refine ih.move reached.turns reached.accounts ?_ moved
      rintro transaction rfl
      exact reached.coherent (Multiset.mem_cons_self _ _)
    | lend granted compiled =>
      exact ih.lend reached.accounts (reached.coherent (Multiset.mem_cons_self _ _)) granted
    | run compiled | send job =>
      obtain ⟨expects, borrowed⟩ := ih
      refine ⟨Multiset.forall_mem_cons.2 ⟨trivial, expects⟩, ?_⟩
      intro transaction keeps party mem borrows
      simp only [Multiset.mem_cons, reduceCtorEq, false_or] at keeps
      rcases Multiset.mem_cons.1 mem with rfl | mem
      · simp [Party.borrows] at borrows
      · exact borrowed transaction keeps party mem borrows
    | rescript rules => exact ⟨ih.expects, ih.borrowed⟩

/-- A call is made on a connection only when no call is under way on it. -/
theorem Reachable.countOf_calls (reached : system.Reachable) {after : System} {actor : Actor}
    (step : Step actor system after) {connection : ConnectionId}
    (called : wire after.store.log connection ≠ wire system.store.log connection) :
    countOf Party.calls system.parties connection = 0 := by
  refine Multiset.countP_eq_zero.2 fun other mem calls => ?_
  have uses := Party.uses_of_calls calls
  cases step with
  | @move _ store after buffer party next rest moved =>
    rcases moved.speaks with mute | ⟨call, on, speaks⟩
    · exact called (mute _)
    · obtain rfl : on = connection := by
        by_contra elsewhere
        have other : call.on? ≠ some connection := by simpa [speaks.on] using elsewhere
        exact called (by rw [speaks.log, wire_append, if_neg other, List.append_nil])
      rcases speaks.turn with free | ⟨own, silent⟩
      · exact free other mem uses
      · rcases Multiset.mem_cons.1 mem with rfl | more
        · simp [silent] at calls
        · exact ne_of_countOf_cons (reached.turns.once on) own more uses
  | lend | run | send | rescript => exact called rfl

/-- No two calls are under way on one connection. -/
theorem Reachable.countOf_calls_le_one (reached : system.Reachable) (connection : ConnectionId) :
    countOf Party.calls system.parties connection ≤ 1 := by
  refine Nat.le_trans ?_ (reached.turns.once connection)
  unfold countOf
  rw [Multiset.countP_eq_card_filter, Multiset.countP_eq_card_filter]
  exact Multiset.card_le_card
    (Multiset.monotone_filter_right _ fun _ calls => Party.uses_of_calls calls)

/-- A claim of a connection that is not free can only be refused: no call is made, and after a step
that was refused the guard is as it was. -/
theorem refused_of_claiming {buffer : Nat} {free : ConnectionId → Prop} {store after : Store}
    {transaction : Transaction} {next : Party} {request : Request}
    (claiming : transaction.phase = .claiming request) (held : ¬free transaction.connection)
    (moved : Party.Moves buffer free .engine store (.keeping transaction) after next) :
    after = store ∧ next = .keeping
      (transaction.answer request.refusedPhase (.error (.storeUnavailable .heldByStream))) := by
  cases moved with
  | refuse claims _ =>
    obtain rfl := Phase.claiming.inj (claims.symm.trans claiming)
    exact ⟨rfl, rfl⟩
  | grantQuery _ isFree | grantCall _ isFree _ => exact absurd isFree held
  | rejectPlan phase | returned phase | undo phase | undone phase | giveUp phase =>
    simp [claiming] at phase

/-- The protocol of a transaction on its connection, whatever its guard and its streams do and
however the calls of the store end. The calls are a begin, then queries and statements, then at most
one commit, then at most one roll-back, and none is made while another is under way. Only a guard
that is asked to commit commits; a roll-back is called only if no commit has succeeded. Once nothing
happens by itself any more, a transaction whose guard is gone and whose connection is free is over,
and it was rolled back exactly if no commit succeeded, unless its guard was dropped where no task
could wait. A claim of a connection that is held is refused without a call, and after a refused step
the guard waits for its owner again. -/
theorem Reachable.protocol (reached : system.Reachable) {transaction : Transaction}
    (mem : .keeping transaction ∈ system.parties) :
    (∃ steps, (∀ step ∈ steps, step.IsStep) ∧
        wire system.store.log transaction.connection =
          .begin transaction.connection :: (steps ++
            ((if transaction.commit.isSome then [.commit transaction.connection] else []) ++
              if transaction.rolledBack then [.rollback transaction.connection] else []))) ∧
      (countOf Party.calls system.parties transaction.connection ≤ 1 ∧
        ∀ actor after, Step actor system after →
          wire after.store.log transaction.connection ≠
            wire system.store.log transaction.connection →
          countOf Party.calls system.parties transaction.connection = 0) ∧
      (transaction.commit.isSome = true → .call .commit ∈ transaction.asked) ∧
      (transaction.rolledBack = true → transaction.commit ≠ some .success) ∧
      (system.Quiet → transaction.phase ≠ .idle → Free system.parties transaction.connection →
        transaction.droppedOutside = false →
          transaction.phase = .ended ∧
            (transaction.rolledBack = true ↔ transaction.commit ≠ some .success)) ∧
      (∀ request, transaction.phase = .claiming request →
        ¬Free system.parties transaction.connection → ∀ after next,
          Party.Moves system.buffer (Free system.parties) .engine system.store
            (.keeping transaction) after next →
          after = system.store ∧
            next = .keeping (transaction.answer request.refusedPhase
              (.error (.storeUnavailable .heldByStream))) ∧
            (request ≠ .call .commit → request ≠ .call .rollback →
              request.refusedPhase = .idle)) := by
  have coherent := reached.coherent mem
  have ended := coherent.ended
  refine ⟨reached.orderly.expects _ mem, ⟨reached.countOf_calls_le_one _, ?_⟩,
    coherent.committed, ?_, ?_, ?_⟩
  · exact fun actor after step called => reached.countOf_calls step called
  · intro rolledBack
    cases phase : transaction.phase with
    | calling call => cases call <;> simp_all [Phase.Accords]
    | _ => simp_all [Phase.Accords]
  · intro quiet gone free inside
    have rests : transaction.phase.Rests (Free system.parties transaction.connection) :=
      quiet.rests reached mem
    cases phase : transaction.phase with
    | ended =>
      rw [phase] at ended
      refine ⟨rfl, ?_⟩
      rcases ended with ⟨commit, rolledBack⟩ | ⟨commit, rolledBack⟩ | ⟨-, -, outside⟩
      · simp [commit, rolledBack]
      · simp [commit, rolledBack]
      · simp [inside] at outside
    | _ => simp_all [Phase.Rests]
  · intro request claiming held after next moved
    obtain ⟨silent, refused⟩ := refused_of_claiming claiming held moved
    refine ⟨silent, refused, fun commit rollback => ?_⟩
    rcases request with _ | _ | _ | _
    · rfl
    · rfl
    · exact absurd rfl commit
    · exact absurd rfl rollback

end System

namespace Journal

/-- Three entries. -/
def three : Response where
  rows := [[.integer 1], [.integer 2], [.integer 3]]

/-- A stream on three entries in a transaction, with room for one row ahead: one entry was taken,
one is in the queue, and the task waits with the third. -/
def ahead : Reading where
  purpose := .stream
  supply := .lent 1
  response := three
  stream :=
    { columns := query.columns
      first := some [.integer 1]
      flow := ⟨1, [], .success, .offering [.integer 3], [.ok [.integer 2]], true⟩
      joined := false
      received := 1 }
  reader := .idle
  given := []

/-- The transaction of the stream, whose guard waits for the connection to run a statement. -/
def waiting : Transaction where
  connection := 1
  phase := .claiming (.call (.statement "DELETE FROM entries" []))
  asked := [.query .stream plan, .call (.statement "DELETE FROM entries" [])]

/-- A statement is asked for while the stream is open. -/
theorem reachable_waiting :
    ∃ store, System.Reachable ⟨store, 1, .keeping waiting ::ₘ .running ahead ::ₘ 0⟩ := by
  have compiled : (Purpose.stream.plan plan).compile = .ok query := compile_plan
  -- the transaction begins
  obtain ⟨store, begun, script⟩ : ∃ store,
      System.Reachable ⟨store, 1, .keeping { connection := 1 } ::ₘ 0⟩ ∧
        store.rules = rules three := by
    have sent := (System.Reachable.start 1 (rules three) 1).step (.send .beginning)
    have hired := sent.step (.move (.hire (.granted rfl)))
    have begun := (hired.step (.move (.perform rfl))).step (.move .complete)
    exact ⟨_, begun, rfl⟩
  -- its guard is asked for the stream and hands the connection on
  have asked := begun.step (.move (@Party.Moves.ask _ _ _ _ (.query .stream plan) rfl))
  have free : System.Free
      (.keeping (Transaction.ask { connection := 1 } (.query .stream plan)) ::ₘ 0) 1 := by
    simp [System.Free, Party.uses, Transaction.ask]
  have lent := (asked.step (.move (.grantQuery rfl free))).step (.lend rfl compiled)
  -- the query goes as far ahead as it can
  have answered : store.query 1 query.sql query.params =
      (three, { store with log := store.log ++ [.query 1 query.sql query.params] }) := by
    simp only [Store.query, Store.call, script]
    rfl
  have running := lent.step (.move (.queryLent answered))
  have first := (running.step (.move (.task rfl))).step (.move (.task rfl))
  have opened := first.step (.move (.read rfl))
  have second := (opened.step (.move (.task rfl))).step (.move (.task rfl))
  have third := second.step (.move (.task rfl))
  -- the guard is asked for the statement
  rw [Multiset.cons_swap] at third
  have claims := third.step
    (.move (@Party.Moves.ask _ _ _ _ (.call (.statement "DELETE FROM entries" [])) rfl))
  exact ⟨_, claims⟩

/-- The stream after it was dropped. -/
def dropped : Reading :=
  { ahead with
    stream :=
      { columns := query.columns
        first := none
        flow := ⟨1, [], .success, .done, [], false⟩
        joined := false
        received := 1 }
    reader := .done (.ok .dropped) }

/-- The transaction in the end: the statement and then the commit were refused while the stream was
open. -/
def undone : Transaction where
  connection := 1
  phase := .ended
  asked := waiting.asked ++ [.call .commit]
  answers := [.error (.storeUnavailable .heldByStream), .error (.storeUnavailable .heldByStream)]
  rolledBack := true

/-- The transaction comes to its end after the stream was dropped. -/
theorem reachable_undone :
    ∃ store, System.Reachable ⟨store, 1, .keeping undone ::ₘ .running dropped ::ₘ 0⟩ := by
  obtain ⟨store, reached⟩ := reachable_waiting
  have held (transaction : Transaction) (same : transaction.connection = 1) :
      ¬System.Free (.keeping transaction ::ₘ .running ahead ::ₘ 0) transaction.connection := by
    intro free
    refine free (.running ahead) (by simp) ?_
    rw [same]
    rfl
  have refused := reached.step (.move (.refuse rfl (held waiting rfl)))
  have commits := refused.step (.move (@Party.Moves.ask _ _ _ _ (.call .commit) rfl))
  have abandoned := commits.step (.move (.refuse rfl (held _ rfl)))
  rw [Multiset.cons_swap] at abandoned
  have dropped := abandoned.step (.move (@Party.Moves.serve _ _ _ _ _ .drop rfl))
  have ended := dropped.step (.move (.task rfl))
  rw [Multiset.cons_swap] at ended
  have undoing := ended.step (.move (.undo rfl (by simp [System.Free, Party.uses, Reading.holds,
    Reading.withFlow, Flow.holds, Transaction.answer, Request.refusedPhase]) rfl))
  exact ⟨_, undoing.step (.move (.undone rfl))⟩

/-- On its connection there was a begin, then steps and then one roll-back. -/
theorem protocol_undone :
    ∃ store, System.Reachable ⟨store, 1, .keeping undone ::ₘ .running dropped ::ₘ 0⟩ ∧
      ∃ steps, (∀ step ∈ steps, step.IsStep) ∧
        wire store.log 1 = .begin 1 :: (steps ++ [.rollback 1]) := by
  obtain ⟨store, reached⟩ := reachable_undone
  have mem : .keeping undone ∈ Party.keeping undone ::ₘ .running dropped ::ₘ 0 :=
    Multiset.mem_cons_self _ _
  obtain ⟨⟨steps, all, calls⟩, -⟩ := reached.protocol mem
  exact ⟨store, reached, steps, all, calls⟩

end Journal

end TypedQuery
