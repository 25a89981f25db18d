import TypedQuery.Proofs.Engine.Queries

/-!
# The engine does what the system may do

Each call of the engine is a run of the system: from parties that the engine shows it comes to
parties that the engine shows after the call (`Engine.Serves.comes`). So whatever calls an engine
gets one after another, it shows what may be going on in a system, and nothing happens there any
more by itself (`Engine.Reached.exists_quiet`). What holds of every system that may be reached
therefore holds of the engine; and after it has been shut down no connection is out.
-/

namespace TypedQuery

namespace Engine

variable {engine : Engine} {origin : System} {hands : Multiset Party}

/-! ## Errands -/

section Errands

variable {job : Job}

/-- A job that is sent for and hands nothing back is done. -/
theorem Comes.finishJob {connection : Option ConnectionId} {result : Except QueryError Unit}
    (comes : engine.Comes origin (.doing (.done connection result) ::ₘ hands))
    (reached : origin.Reachable) : engine.Comes origin hands :=
  comes.finish reached (fun _ _ => ⟨connection, result, rfl⟩) rfl

/-- A job is sent for. -/
theorem Comes.send (comes : engine.Comes origin hands) (reached : origin.Reachable) (job : Job) :
    engine.Comes origin (.doing (.waiting job) ::ₘ hands) := by
  refine comes.run reached (fun shown _ _ => ?_) fun session _ free => (System.free_cons.1 free).2
  rw [Multiset.cons_add]
  exact .single ⟨.caller, .send job⟩

/-- A job whose wish for a connection is not granted comes to its end. -/
theorem Comes.refuseJob (comes : engine.Comes origin hands) (reached : origin.Reachable) (job : Job)
    {e : QueryError} {store : Store} (refused : engine.store.acquire = (.error e, store)) :
    Comes origin { engine with store } hands := by
  have waiting := comes.send reached job
  have done := waiting.move reached (fun _ _ _ => .hire (.refused refused)) (by simp [Party.uses])
  exact done.finishJob reached

/-- A job that gets a connection makes its call and is told of the end. -/
theorem Comes.performJob (comes : engine.Comes origin hands) (reached : origin.Reachable)
    (job : Job) {connection : ConnectionId} {hired after : Store} {ending : Ending}
    (acquired : engine.store.acquire = (.ok connection, hired))
    (performed : job.perform hired connection = (ending, after)) :
    Comes origin { engine with store := (Party.afterJob after job connection ending).2 }
      ((Party.afterJob after job connection ending).1 ::ₘ hands) := by
  have waiting := comes.send reached job
  have holding := waiting.move reached (fun _ _ _ => .hire (.granted acquired))
    (by simp [Party.uses])
  have calling := holding.move reached (fun _ _ _ => .perform performed) (fun _ _ uses => uses)
  -- the connection was handed out for the job, so no transaction waits for it
  obtain ⟨shown, shows, -, now⟩ := calling.exists_shown reached
  have other := shows.ne_connection now.accounts (Multiset.mem_cons_self _ _) rfl
  exact calling.move reached (fun _ _ _ => .complete) fun session mem uses =>
    absurd (Option.some.inj uses).symm (other session mem)

/-- Running statements that change the tables. -/
theorem Comes.migrate (comes : engine.Comes origin hands) (reached : origin.Reachable)
    (sql : String) : (engine.migrate sql).2.Comes origin hands := by
  unfold Engine.migrate
  rcases acquired : engine.store.acquire with ⟨e | connection, store⟩
  · exact comes.refuseJob reached (.migration sql) acquired
  · exact (comes.performJob reached (.migration sql) acquired rfl).finishJob reached

/-- An engine keeps a transaction that has begun, with a guard of a name. -/
theorem Comes.putNew {transaction : Transaction}
    (comes : engine.Comes origin (.keeping transaction ::ₘ hands)) (reached : origin.Reachable)
    (idle : transaction.phase = .idle) (name : String) :
    Comes origin
      { engine with sessions := engine.sessions ++ [⟨transaction.connection, .guarded name⟩] }
      hands := by
  obtain ⟨shown, shows, -, now⟩ := comes.exists_shown reached
  have new := shows.ne_connection now.accounts (Multiset.mem_cons_self _ _) rfl
  have phase : transaction.phase = Fate.phase (.guarded name) := idle
  refine comes.putSession _ reached phase (.inl ⟨name, rfl⟩) rfl ?_ rfl rfl ?_
  · rw [List.map_append]
    exact shows.connections.append (List.nodup_singleton _) (by simpa using new)
  · simp only [faces, List.map_append, List.map_singleton, ← Multiset.coe_add,
      Multiset.coe_singleton]
    rw [← add_assoc, add_comm, Multiset.singleton_add]

/-- Beginning a transaction. -/
theorem Comes.begin (comes : engine.Comes origin 0) (reached : origin.Reachable)
    (name : String) : (engine.begin name).2.Comes origin 0 := by
  unfold Engine.begin
  rcases acquired : engine.store.acquire with ⟨e | connection, store⟩
  · exact comes.refuseJob reached .beginning acquired
  · rcases begun : store.begin connection with ⟨ending, store⟩
    have done := comes.performJob reached .beginning acquired begun
    simp only [begun]
    cases ending with
    | failure | crash => exact done.finishJob reached
    | success =>
      have begun : Comes origin { engine with store } (.keeping { connection } ::ₘ 0) := done
      cases found : session? { engine with store } name with
      | none =>
        have put := begun.putNew reached rfl name
        simpa only [found] using put
      | some old =>
        obtain ⟨mem, guarded⟩ := session_of_find found
        have free : System.Free (.keeping { connection } ::ₘ 0) old.connection :=
          System.free_cons.2 ⟨by simp [Party.uses], System.free_zero _⟩
        have put := (begun.dropGuard reached mem guarded free true).putNew reached rfl name
        simpa only [found] using put

end Errands

/-! ## Any number of calls -/

/-- One call of an engine: for a plan or for statements, or for a stream or a guard that it has
under a name. -/
inductive Serves (before : Engine) : Engine → Prop where
  | execute (name : String) (plan : Plan) :
    Serves before (keepStream name (before.execute plan)).2
  | fetchAll (plan : Plan) : Serves before (before.fetchAll plan).2
  | executeOne (plan : Plan) : Serves before (before.executeOne plan).2
  | migrate (sql : String) : Serves before (before.migrate sql).2
  | begin (name : String) : Serves before (before.begin name).2
  -- an open stream
  | next {name : String} {opened : OpenStream} : before.stream? name = some opened →
    Serves before (before.onStream name opened RowStream.next).2
  | collect {name : String} {opened : OpenStream} : before.stream? name = some opened →
    Serves before (before.endStream name opened RowStream.collect).2
  | close {name : String} {opened : OpenStream} : before.stream? name = some opened →
    Serves before (before.endStream name opened RowStream.close).2
  | drop (name : String) : Serves before (before.dropStream name)
  -- a guard
  | executeIn {guard : String} {session : Session} (name : String) (plan : Plan) :
    before.session? guard = some session →
    Serves before (keepStream name (before.executeIn session plan)).2
  | fetchAllIn {guard : String} {session : Session} (plan : Plan) :
    before.session? guard = some session → Serves before (before.fetchAllIn session plan).2
  | executeOneIn {guard : String} {session : Session} (plan : Plan) :
    before.session? guard = some session → Serves before (before.executeOneIn session plan).2
  | statement {guard : String} {session : Session} (sql : String) (params : List Value) :
    before.session? guard = some session → Serves before (before.statement session sql params).2
  | commit {guard : String} {session : Session} : before.session? guard = some session →
    Serves before (before.commit session).2
  | rollback {guard : String} {session : Session} : before.session? guard = some session →
    Serves before (before.rollbackNow session).2
  | dropGuard {guard : String} {session : Session} (canWait : Bool) :
    before.session? guard = some session → Serves before (before.dropGuard session canWait).2

/-- What may become of an engine over a store of some limit and script, with some length of the
buffers. -/
def Reached (limit : Nat) (rules : List Rule) (buffer : Nat) : Engine → Prop :=
  Relation.ReflTransGen Serves (.new { limit, rules } buffer)

/-- Every call of an engine is a run of the system. -/
theorem Serves.comes {after : Engine} (serves : engine.Serves after) (reached : origin.Reachable)
    (comes : engine.Comes origin 0) : after.Comes origin 0 := by
  have free := System.free_zero
  cases serves with
  | execute name plan => exact (comes.execute reached .stream plan).keepStream reached name
  | fetchAll plan => exact (comes.execute reached .allRows plan).collectOpened reached
  | executeOne plan => exact (comes.execute reached .firstRow plan).firstOpened reached
  | migrate sql => exact comes.migrate reached sql
  | begin name => exact comes.begin reached name
  | next found => exact comes.next reached found
  | collect found => exact comes.collect reached found
  | close found => exact comes.close reached found
  | drop name => exact comes.dropStream reached name
  | executeIn name plan found =>
    obtain ⟨mem, guarded⟩ := session_of_find found
    exact (comes.executeIn reached mem guarded (free _) .stream plan).keepStream reached name
  | fetchAllIn plan found =>
    obtain ⟨mem, guarded⟩ := session_of_find found
    exact (comes.executeIn reached mem guarded (free _) .allRows plan).collectOpened reached
  | executeOneIn plan found =>
    obtain ⟨mem, guarded⟩ := session_of_find found
    exact (comes.executeIn reached mem guarded (free _) .firstRow plan).firstOpened reached
  | statement sql params found =>
    obtain ⟨mem, guarded⟩ := session_of_find found
    exact comes.statement reached mem guarded (free _) sql params
  | commit found =>
    obtain ⟨mem, guarded⟩ := session_of_find found
    exact comes.commit reached mem guarded (free _)
  | rollback found =>
    obtain ⟨mem, guarded⟩ := session_of_find found
    exact comes.rollbackNow reached mem guarded (free _)
  | dropGuard canWait found =>
    obtain ⟨mem, guarded⟩ := session_of_find found
    exact comes.dropGuard reached mem guarded (free _) canWait

/-- An engine that has nothing in its hands shows all that goes on, and nothing happens there any
more by itself. -/
theorem Comes.exists_quiet (comes : engine.Comes origin 0) :
    ∃ shown, origin.Runs (engine.system shown) ∧ shown.filterMap Party.face = engine.faces ∧
      (engine.system shown).Quiet := by
  obtain ⟨shown, runs, shows⟩ := comes
  rw [zero_add] at runs
  have rests := shows.rests
  rw [zero_add] at rests
  exact ⟨shown, runs, shows.faces, System.quiet_of_rests rests⟩

section Reached

variable {limit buffer : Nat} {rules : List Rule}

/-- Any number of calls is a run of the system. -/
theorem Reached.comes (reached : Reached limit rules buffer engine) :
    engine.Comes (.start limit rules buffer) 0 := by
  induction reached with
  | refl => exact ⟨0, .refl, List.nodup_nil, List.nodup_nil, rfl, by simp⟩
  | tail _ serves ih => exact serves.comes (.start limit rules buffer) ih

/-- Whatever calls an engine gets one after another, it shows what a system has come to by a run,
and nothing happens there any more by itself. -/
theorem Reached.exists_quiet (reached : Reached limit rules buffer engine) :
    ∃ shown, (System.start limit rules buffer).Runs (engine.system shown) ∧
      shown.filterMap Party.face = engine.faces ∧ (engine.system shown).Quiet :=
  reached.comes.exists_quiet

end Reached

/-! ## Answers -/

/-- The engine leaves the stream as it is when it looks after its connection. -/
theorem stream_settle (engine : Engine) (stream : RowStream) (lease : Option Lease) :
    (engine.settle stream lease).1.stream = stream := by
  unfold Engine.settle
  split
  · split <;> rfl
  · rfl

/-- All rows of a plan on a connection of its own are what the response of the store says. -/
theorem fetchAll_eq {plan : Plan} {query : CompiledQuery} {connection : ConnectionId}
    {store : Store} (room : 0 < engine.buffer) (compiled : plan.compile = .ok query)
    (acquired : engine.store.acquire = (.ok connection, store)) :
    (engine.fetchAll plan).1 =
      (store.query connection query.sql query.params).1.all query.columns := by
  simp only [fetchAll, Engine.execute, compiled, acquired, Engine.run]
  generalize (store.query connection query.sql query.params).1 = response
  have opens := RowStream.ofFlow_start query.columns room response
  rcases opened : RowStream.ofFlow query.columns (.start engine.buffer response) with
    ⟨e | _, stream⟩
  · rw [opened] at opens
    exact (Response.all_of_opens opens.symm).symm
  · simp only [Except.map, collectOpened, stream_settle]
    exact RowStream.collect_start room opened

/-! ## The end -/

section ShutDown

/-- An engine that has no open stream has no transaction without a guard. -/
theorem Comes.exists_guarded (comes : engine.Comes origin 0) (streams : engine.streams = [])
    {session : Session} (mem : session ∈ engine.sessions) :
    ∃ name, session.fate = .guarded name := by
  obtain ⟨shown, -, shows⟩ := comes
  obtain ⟨transaction, mem', -, phase⟩ := shows.exists_transaction mem
  have rests : transaction.phase.Rests (System.Free (0 + shown) transaction.connection) :=
    shows.rests _ mem'
  -- nothing could hold its connection
  have free : System.Free (0 + shown) transaction.connection := by
    rw [zero_add]
    intro party mem uses
    obtain ⟨opened, face, -⟩ := (shows.rests party mem).face_of_uses uses
    have known : Face.stream opened ∈ engine.faces :=
      shows.faces ▸ (Multiset.mem_filterMap _ _).2 ⟨party, mem, face⟩
    simp [stream_mem_faces, streams] at known
  rw [phase] at rests
  cases fate : session.fate with
  | guarded name => exact ⟨name, rfl⟩
  | rollBack | giveBack =>
    rw [fate] at rests
    exact absurd free rests

/-- The streams that are left when one is dropped. -/
theorem streams_dropStream (engine : Engine) (name : String) :
    (engine.dropStream name).streams = engine.streams.filter (·.1 ≠ name) := by
  unfold Engine.dropStream
  split
  · exact streams_settle _ _ _
  · next none =>
    have other : ∀ named ∈ engine.streams, named.1 ≠ name := by
      simpa [stream?] using none
    exact (List.filter_eq_self.2 fun named mem => by simpa using other named mem).symm

/-- Once the streams of some names have been dropped, those of other names are left. -/
theorem streams_foldl_dropStream (names : List String) (engine : Engine) :
    (names.foldl dropStream engine).streams = engine.streams.filter (·.1 ∉ names) := by
  induction names generalizing engine with
  | nil => simp
  | cons name rest ih =>
    rw [List.foldl_cons, ih, streams_dropStream, List.filter_filter]
    congr 1
    funext named
    simp [not_or, Bool.and_comm]

/-- Any number of streams may be dropped. -/
theorem Comes.dropStreams (comes : engine.Comes origin hands) (reached : origin.Reachable)
    (names : List String) : (names.foldl Engine.dropStream engine).Comes origin hands := by
  induction names generalizing engine with
  | nil => exact comes
  | cons name rest ih => exact ih (comes.dropStream reached name)

/-- An engine whose guards have a name finds one of that name. -/
theorem exists_session_of_mem {name : String} (known : name ∈ engine.guardNames) :
    ∃ session, engine.session? name = some session := by
  obtain ⟨session, mem, named⟩ := List.mem_filterMap.1 known
  have guarded : session.fate = .guarded name := by
    cases fate : session.fate <;> simp_all [Fate.guard?]
  rw [← Option.isSome_iff_exists, session?, List.find?_isSome]
  exact ⟨session, mem, by simpa using guarded⟩

/-- The guards that are left when a transaction has ended. -/
theorem guardNames_endSession {session : Session} {name : String}
    (connections : (engine.sessions.map (·.connection)).Nodup) (mem : session ∈ engine.sessions)
    (guarded : session.fate = .guarded name) :
    engine.guardNames.Perm (name :: (engine.endSession session.connection).guardNames) := by
  have all := coe_map_eq_cons connections mem id
  rw [List.map_id, List.map_id, Multiset.cons_coe, Multiset.coe_eq_coe] at all
  have names := all.filterMap (·.fate.guard?)
  simpa [guardNames, endSession, guarded, Fate.guard?] using names

/-- Once all guards have been dropped where no stream is open, no transaction is left. -/
theorem Comes.dropGuards (reached : origin.Reachable) (names : List String)
    (comes : engine.Comes origin 0) (streams : engine.streams = [])
    (all : names.Perm engine.guardNames) :
    (names.foldl dropNamed engine).Comes origin 0 ∧
      (names.foldl dropNamed engine).streams = [] ∧
      (names.foldl dropNamed engine).sessions = [] := by
  induction names generalizing engine with
  | nil =>
    refine ⟨comes, streams, List.eq_nil_iff_forall_not_mem.2 fun session mem => ?_⟩
    obtain ⟨name, guarded⟩ := comes.exists_guarded streams mem
    have known : name ∈ engine.guardNames :=
      List.mem_filterMap.2 ⟨session, mem, by simp [guarded, Fate.guard?]⟩
    simp [← all.mem_iff] at known
  | cons name rest ih =>
    obtain ⟨session, found⟩ := exists_session_of_mem (all.mem_iff.1 List.mem_cons_self)
    obtain ⟨mem, guarded⟩ := session_of_find found
    obtain ⟨shown, -, shows⟩ := id comes
    have unheld : engine.isHeld session.connection = false := by simp [isHeld, streams]
    have dropped : engine.dropNamed name = (engine.rollBack session.connection).2 := by
      simp [dropNamed, found, Engine.dropGuard, unheld]
    rw [List.foldl_cons, dropped]
    refine ih ?_ streams ?_
    · have done := comes.dropGuard reached mem guarded (System.free_zero _) true
      simpa [Engine.dropGuard, unheld] using done
    · exact ((all.trans (guardNames_endSession shows.connections mem guarded)).cons_inv :)

/-- An engine that has been shut down has neither a stream nor a transaction. -/
theorem Comes.shutDown (comes : engine.Comes origin 0) (reached : origin.Reachable) :
    engine.shutDown.Comes origin 0 ∧ engine.shutDown.streams = [] ∧
      engine.shutDown.sessions = [] := by
  have dropped := comes.dropStreams reached (inOrder (engine.streams.map (·.1)))
  refine dropped.dropGuards reached _ ?_ (List.mergeSort_perm _ _)
  rw [streams_foldl_dropStream, List.filter_eq_nil_iff]
  intro named mem
  have known : named.1 ∈ inOrder (engine.streams.map (·.1)) :=
    (List.mergeSort_perm _ _).mem_iff.2 (List.mem_map_of_mem mem)
  simpa using known

/-- An engine that has neither a stream nor a transaction has no connection out. -/
theorem Comes.out_eq_nil (comes : engine.Comes origin 0) (reached : origin.Reachable)
    (streams : engine.streams = []) (sessions : engine.sessions = []) : engine.store.out = [] := by
  obtain ⟨shown, shows, -, now⟩ := comes.exists_shown reached
  rw [zero_add] at now
  have none : ∀ party ∈ shown, party.owns = none := by
    intro party mem
    by_contra owner
    obtain ⟨connection, owns⟩ := Option.ne_none_iff_exists'.1 owner
    obtain ⟨face, kept⟩ := (shows.rests party mem).face_of_owns owns
    have known : face ∈ engine.faces :=
      shows.faces ▸ (Multiset.mem_filterMap _ _).2 ⟨party, mem, kept⟩
    simp [faces, streams, sessions] at known
  exact now.accounts.out_eq_nil none

/-- Whatever calls an engine has got, no connection is out once it has been shut down. -/
theorem Reached.openConnections_shutDown {limit buffer : Nat} {rules : List Rule}
    (reached : Reached limit rules buffer engine) : engine.shutDown.openConnections = 0 := by
  obtain ⟨comes, streams, sessions⟩ := reached.comes.shutDown (.start limit rules buffer)
  simp [openConnections, comes.out_eq_nil (.start limit rules buffer) streams sessions]

end ShutDown

end Engine

end TypedQuery
