import TypedQuery.Proofs.Engine.Faces

/-!
# Guards as the engine serves them

What the engine does for the guard of a transaction is a run of the party that keeps it: the engine
takes the transaction into its hands, the guard asks and is refused or gets the connection, and in
the end the engine keeps the transaction again, in the phase that goes with its fate, or knows
nothing more of it. The engine looks at its open streams to see whether a connection is held
(`Engine.isHeld`); that agrees with what the parties use (`Engine.Shows.free`).
-/

namespace TypedQuery

namespace Engine

variable {engine : Engine} {origin : System} {hands : Multiset Party}

section Guards

variable {transaction : Transaction} {connection : ConnectionId}

/-- No transaction that an engine keeps besides has the connection. -/
theorem ne_of_mem_endSession {session : Session}
    (mem : session ∈ (engine.endSession connection).sessions) :
    session.connection ≠ connection := by
  simpa using (List.mem_filter.1 mem).2

/-- The connection of a transaction at hand is free if the engine does not know it to be held. -/
theorem Shows.free_keeping {shown : Multiset Party}
    (shows :
      (engine.endSession transaction.connection).Shows (.keeping transaction ::ₘ hands) shown)
    (reached : ((engine.endSession transaction.connection).system
      (.keeping transaction ::ₘ hands + shown)).Reachable)
    (unused : (Party.keeping transaction).uses = none)
    (free : System.Free hands transaction.connection)
    (unheld : engine.isHeld transaction.connection = false) :
    System.Free (.keeping transaction ::ₘ hands + shown) transaction.connection :=
  shows.free reached.accounts (Multiset.mem_cons_self _ _) rfl
    (System.free_cons.2 ⟨by simp [unused], free⟩) unheld

/-- A transaction at hand that has come to its end. -/
theorem Comes.finishSession
    (comes : engine.Comes origin (.keeping transaction ::ₘ hands)) (reached : origin.Reachable)
    (ended : transaction.phase = .ended) : engine.Comes origin hands := by
  refine comes.finish reached (fun shown _ => ?_) (by simp [Party.face, ended])
  show transaction.phase.Rests _
  rw [ended]
  trivial

/-- A transaction whose guard is gone is rolled back once its connection is free. -/
theorem Comes.rollBack
    (comes : (engine.endSession connection).Comes origin (.keeping transaction ::ₘ hands))
    (reached : origin.Reachable) (same : transaction.connection = connection)
    (abandoned : transaction.phase = .abandoned) (free : System.Free hands connection)
    (unheld : engine.isHeld connection = false) :
    (engine.rollBack connection).2.Comes origin hands := by
  subst same
  have unused : (Party.keeping transaction).uses = none := by simp [Party.uses, abandoned]
  have undoing := comes.move reached
    (fun shown shows now => .undo abandoned (shows.free_keeping now unused free unheld) rfl)
    (by simp [unused])
  have ended := undoing.move reached (fun shown _ _ => .undone rfl)
    (fun session mem uses => absurd (Option.some.inj uses).symm (ne_of_mem_endSession mem))
  exact ended.finishSession reached rfl

/-- The connection of a transaction without a guard is given back once it is free. -/
theorem Comes.giveBack
    (comes : (engine.endSession connection).Comes origin (.keeping transaction ::ₘ hands))
    (reached : origin.Reachable) (same : transaction.connection = connection)
    (left : transaction.phase = .left) (free : System.Free hands connection)
    (unheld : engine.isHeld connection = false) :
    (engine.giveBack connection).Comes origin hands := by
  subst same
  have unused : (Party.keeping transaction).uses = none := by simp [Party.uses, left]
  have ended := comes.move reached
    (fun shown shows now => .giveUp left (shows.free_keeping now unused free unheld))
    (by simp [unused])
  exact ended.finishSession reached rfl

/-- An engine keeps a transaction with the fate that goes with its phase. -/
theorem Comes.putSession {fate : Fate} (after : Engine)
    (comes : engine.Comes origin (.keeping transaction ::ₘ hands)) (reached : origin.Reachable)
    (phase : transaction.phase = fate.phase)
    (waits : (∃ name, fate = .guarded name) ∨ engine.isHeld transaction.connection = true)
    (streams : after.streams = engine.streams)
    (connections : (after.sessions.map (·.connection)).Nodup)
    (store : after.store = engine.store) (buffer : after.buffer = engine.buffer)
    (faces : after.faces = .session transaction.connection fate.phase ::ₘ engine.faces) :
    after.Comes origin hands := by
  obtain ⟨shown, -, shows⟩ := id comes
  refine comes.put after reached (fun shown shows _ => ?_) (streams ▸ shows.names) connections store
    buffer ?_ faces
  · show transaction.phase.Rests _
    rw [phase]
    cases fate with
    | guarded name => trivial
    | rollBack | giveBack =>
      rcases waits with ⟨name, same⟩ | held
      · cases same
      · exact shows.not_free held
  · rw [← phase]
    cases fate <;> simp_all [Party.face, Fate.phase]

/-- A guard that is asked for something. -/
theorem Comes.ask (comes : engine.Comes origin (.keeping transaction ::ₘ hands))
    (reached : origin.Reachable) (idle : transaction.phase = .idle) (request : Request) :
    engine.Comes origin (.keeping (transaction.ask request) ::ₘ hands) :=
  comes.move reached (fun _ _ _ => .ask idle) (by simp [Party.uses, idle])

/-- A guard that is asked for something while a query holds its connection. -/
theorem Comes.refuse
    (comes : (engine.endSession connection).Comes origin (.keeping transaction ::ₘ hands))
    (reached : origin.Reachable) (same : transaction.connection = connection)
    (idle : transaction.phase = .idle) (request : Request)
    (held : engine.isHeld connection = true) :
    ∃ after : Transaction, after.connection = connection ∧ after.phase = request.refusedPhase ∧
      (engine.endSession connection).Comes origin (.keeping after ::ₘ hands) := by
  subst same
  have refused := (comes.ask reached idle request).move reached
    (fun _ shows _ => .refuse rfl (shows.not_free held)) (by simp [Party.uses, Transaction.ask])
  refine ⟨_, ?_, ?_, refused⟩ <;> rfl

/-- A guard that is asked for a call while its connection is free. -/
theorem Comes.call
    (comes : (engine.endSession connection).Comes origin (.keeping transaction ::ₘ hands))
    (reached : origin.Reachable) (same : transaction.connection = connection)
    (idle : transaction.phase = .idle) (call : GuardCall) (free : System.Free hands connection)
    (unheld : engine.isHeld connection = false) {response : Response} {store : Store}
    (performed : call.perform engine.store connection = (response, store)) :
    ∃ after : Transaction, after.connection = connection ∧
      after.phase = call.returnedPhase response.ending ∧
      Comes origin
        { engine.endSession connection with
          store :=
            if (call.returnedPhase response.ending).isOver then store.release connection
            else store }
        (.keeping after ::ₘ hands) := by
  subst same
  have claiming := comes.ask reached idle (.call call)
  have calling := claiming.move reached
    (fun shown shows now => .grantCall rfl (shows.free_keeping now rfl free unheld) performed)
    (by simp [Party.uses, Transaction.ask])
  have waits : ((transaction.ask (.call call)).call call response).phase =
      .calling call response := by
    cases call <;> rfl
  have same : ((transaction.ask (.call call)).call call response).connection =
      transaction.connection := by
    cases call <;> rfl
  have returned := calling.move reached (fun shown _ _ => .returned waits)
    fun session mem uses => by
      have uses : some transaction.connection = some session.connection := by
        simpa [Party.uses, waits, same] using uses
      exact absurd (Option.some.inj uses).symm (ne_of_mem_endSession mem)
  simp only [Transaction.storeAfter, same] at returned
  refine ⟨_, ?_, ?_, returned⟩
  · exact same
  · rfl

/-- A guard that is asked for a query while its connection is free. -/
theorem Comes.grant
    (comes : (engine.endSession connection).Comes origin (.keeping transaction ::ₘ hands))
    (reached : origin.Reachable) (same : transaction.connection = connection)
    (idle : transaction.phase = .idle) (purpose : Purpose) (plan : Plan)
    (free : System.Free hands connection) (unheld : engine.isHeld connection = false) :
    ∃ after : Transaction, after.connection = connection ∧
      after.phase = .granted purpose plan ∧
      (engine.endSession connection).Comes origin (.keeping after ::ₘ hands) := by
  subst same
  have granted := (comes.ask reached idle (.query purpose plan)).move reached
    (fun shown shows now => .grantQuery rfl (shows.free_keeping now rfl free unheld))
    (by simp [Party.uses, Transaction.ask])
  refine ⟨_, ?_, ?_, granted⟩ <;> rfl

/-- A guard that has the connection hands it on to the task of a query. -/
theorem Comes.lend {purpose : Purpose} {plan : Plan} {query : CompiledQuery}
    (comes : (engine.endSession connection).Comes origin (.keeping transaction ::ₘ hands))
    (reached : origin.Reachable) (same : transaction.connection = connection)
    (granted : transaction.phase = .granted purpose plan)
    (compiled : (purpose.plan plan).compile = .ok query) :
    (engine.endSession connection).Comes origin
      (.queued purpose query (some connection) ::ₘ
        .keeping { transaction with phase := .idle } ::ₘ hands) := by
  subst same
  refine comes.run reached (fun shown _ _ => ?_) fun session mem free => ?_
  · simp only [Multiset.cons_add]
    exact .single ⟨.engine, .lend granted compiled⟩
  · have free := (System.free_cons.1 (System.free_cons.1 free).2).2
    refine System.free_cons.2 ⟨fun uses => ?_, free⟩
    have uses : some transaction.connection = some session.connection := by
      simpa [Party.uses, granted] using uses
    exact absurd (Option.some.inj uses).symm (ne_of_mem_endSession mem)

end Guards

section Sessions

variable {session : Session} {name : String}

/-- An engine takes a transaction with a guard into its hands. -/
theorem Comes.takeGuard (comes : engine.Comes origin hands) (mem : session ∈ engine.sessions)
    (guarded : session.fate = .guarded name) :
    ∃ transaction, transaction.connection = session.connection ∧ transaction.phase = .idle ∧
      (engine.endSession session.connection).Comes origin (.keeping transaction ::ₘ hands) := by
  obtain ⟨transaction, same, phase, taken⟩ := comes.takeSession mem
  exact ⟨transaction, same, phase.trans (by rw [guarded]; rfl), taken⟩

/-- A transaction whose guard is gone waits for its connection if that is held. -/
theorem Comes.setFate {transaction : Transaction} {fate : Fate} {others : Multiset Party}
    (comes : engine.Comes origin others) (reached : origin.Reachable)
    (mem : session ∈ engine.sessions)
    (waiting : (engine.endSession session.connection).Comes origin (.keeping transaction ::ₘ hands))
    (same : transaction.connection = session.connection)
    (phase : transaction.phase = fate.phase) (held : engine.isHeld session.connection = true) :
    (engine.setFate session.connection fate).Comes origin hands := by
  obtain ⟨shown, -, shows⟩ := comes
  refine waiting.putSession _ reached phase (.inr (same ▸ held)) rfl ?_ rfl rfl ?_
  · rw [connections_setFate]
    exact shows.connections
  · rw [same]
    exact faces_setFate shows.connections mem

/-- An engine keeps a guard again after a step of its transaction. -/
theorem Comes.putGuard {transaction : Transaction} {store : Store} {others : Multiset Party}
    (comes : engine.Comes origin others) (reached : origin.Reachable)
    (mem : session ∈ engine.sessions)
    (guarded : session.fate = .guarded name)
    (stepped : Comes origin { engine.endSession session.connection with store }
      (.keeping transaction ::ₘ hands))
    (same : transaction.connection = session.connection) (idle : transaction.phase = .idle) :
    Comes origin { engine with store } hands := by
  obtain ⟨shown, -, shows⟩ := comes
  refine stepped.putSession _ reached (idle.trans (by rw [guarded]; rfl)) (.inl ⟨name, guarded⟩) rfl
    shows.connections rfl rfl ?_
  rw [same]
  exact faces_endSession shows.connections mem

/-- Dropping a guard. -/
theorem Comes.dropGuard (comes : engine.Comes origin hands) (reached : origin.Reachable)
    (mem : session ∈ engine.sessions) (guarded : session.fate = .guarded name)
    (free : System.Free hands session.connection) (canWait : Bool) :
    (engine.dropGuard session canWait).2.Comes origin hands := by
  obtain ⟨transaction, same, idle, taken⟩ := comes.takeGuard mem guarded
  have unused : (Party.keeping transaction).uses = none := by simp [Party.uses, idle]
  unfold Engine.dropGuard
  split
  · next held =>
    -- the engine keeps the transaction until the connection is free
    cases canWait with
    | true =>
      have abandoned := taken.move reached (fun _ _ _ => .drop idle) (by simp [unused])
      exact comes.setFate reached mem abandoned same rfl held
    | false =>
      have left := taken.move reached
        (fun _ shows _ => .leave idle (same ▸ shows.not_free held)) (by simp [unused])
      exact comes.setFate reached mem left same rfl held
  · next unheld =>
    have unheld : engine.isHeld session.connection = false := by simpa using unheld
    cases canWait with
    | true =>
      have abandoned : (engine.endSession session.connection).Comes origin
          (.keeping { transaction with phase := .abandoned } ::ₘ hands) :=
        taken.move reached (fun _ _ _ => .drop idle) (by simp [unused])
      exact abandoned.rollBack reached same rfl free unheld
    | false =>
      rw [← same] at taken free unheld ⊢
      have undoing := taken.move reached
        (fun shown shows now => .dropOutside idle (shows.free_keeping now unused free unheld) rfl)
        (by simp [unused])
      have ended := undoing.move reached (fun shown _ _ => .undone rfl)
        (fun session mem uses => absurd (Option.some.inj uses).symm (ne_of_mem_endSession mem))
      exact ended.finishSession reached rfl

/-- A step of a transaction is refused while a query holds its connection, and changes nothing. -/
theorem Comes.refuseStep (comes : engine.Comes origin hands) (reached : origin.Reachable)
    (mem : session ∈ engine.sessions) (guarded : session.fate = .guarded name)
    (held : engine.isHeld session.connection = true) (request : Request)
    (step : request.refusedPhase = .idle) : engine.Comes origin hands := by
  obtain ⟨transaction, same, idle, taken⟩ := comes.takeGuard mem guarded
  obtain ⟨after, same, phase, refused⟩ := taken.refuse reached same idle request held
  exact comes.putGuard reached mem guarded refused same (phase.trans step)

/-- The end of a transaction is refused while a query holds its connection and uses up the guard. -/
theorem Comes.refuseEnd (comes : engine.Comes origin hands) (reached : origin.Reachable)
    (mem : session ∈ engine.sessions) (guarded : session.fate = .guarded name)
    (held : engine.isHeld session.connection = true) (request : Request)
    (last : request.refusedPhase = .abandoned) :
    (engine.dropGuard session true).2.Comes origin hands := by
  obtain ⟨transaction, same, idle, taken⟩ := comes.takeGuard mem guarded
  obtain ⟨after, same, phase, refused⟩ := taken.refuse reached same idle request held
  unfold Engine.dropGuard
  rw [if_pos held]
  exact comes.setFate reached mem refused same (phase.trans last) held

/-- A statement within a transaction. -/
theorem Comes.statement (comes : engine.Comes origin hands) (reached : origin.Reachable)
    (mem : session ∈ engine.sessions) (guarded : session.fate = .guarded name)
    (free : System.Free hands session.connection) (sql : String) (params : List Value) :
    (engine.statement session sql params).2.Comes origin hands := by
  unfold Engine.statement claim
  split
  · next held =>
    exact comes.refuseStep reached mem guarded held (.call (.statement sql params)) rfl
  · next unheld =>
    have unheld : engine.isHeld session.connection = false := by simpa using unheld
    obtain ⟨transaction, same, idle, taken⟩ := comes.takeGuard mem guarded
    obtain ⟨after, same, phase, stepped⟩ :=
      taken.call reached same idle (.statement sql params) free unheld rfl
    exact comes.putGuard reached mem guarded stepped same phase

/-- Committing a transaction. -/
theorem Comes.commit (comes : engine.Comes origin hands) (reached : origin.Reachable)
    (mem : session ∈ engine.sessions) (guarded : session.fate = .guarded name)
    (free : System.Free hands session.connection) :
    (engine.commit session).2.Comes origin hands := by
  unfold Engine.commit
  split
  · next held => exact comes.refuseEnd reached mem guarded held (.call .commit) rfl
  · next unheld =>
    have unheld : engine.isHeld session.connection = false := by simpa using unheld
    obtain ⟨transaction, same, idle, taken⟩ := comes.takeGuard mem guarded
    rcases committed : engine.store.commit session.connection with ⟨ending, store⟩
    have performed : GuardCall.commit.perform engine.store session.connection =
        ({ ending }, store) := by
      simp [GuardCall.perform, committed]
    obtain ⟨after, same, phase, stepped⟩ :=
      taken.call reached same idle .commit free unheld performed
    cases ending with
    | success => exact stepped.finishSession reached phase
    | failure | crash =>
      have abandoned : (Engine.endSession { engine with store } session.connection).Comes origin
          (.keeping after ::ₘ hands) :=
        stepped
      exact abandoned.rollBack reached same phase free unheld

/-- Rolling a transaction back. -/
theorem Comes.rollbackNow (comes : engine.Comes origin hands) (reached : origin.Reachable)
    (mem : session ∈ engine.sessions) (guarded : session.fate = .guarded name)
    (free : System.Free hands session.connection) :
    (engine.rollbackNow session).2.Comes origin hands := by
  unfold Engine.rollbackNow
  split
  · next held => exact comes.refuseEnd reached mem guarded held (.call .rollback) rfl
  · next unheld =>
    have unheld : engine.isHeld session.connection = false := by simpa using unheld
    obtain ⟨transaction, same, idle, taken⟩ := comes.takeGuard mem guarded
    obtain ⟨after, same, phase, stepped⟩ :=
      taken.call reached same idle .rollback free unheld rfl
    exact stepped.finishSession reached phase

end Sessions

end Engine

end TypedQuery
