import TypedQuery.Proofs.Engine.Guards

/-!
# Queries as the engine serves them

What the engine does for a stream is a run of the query that it belongs to. After each step the
engine looks whether the query has let go of its connection (`Engine.settle`); a transaction that
waits for the connection comes to its end then. Opening a stream is a run too, and so is reading one
that was just opened.
-/

namespace TypedQuery

namespace Reading

variable {reading after : Reading}

/-- A query that holds its connection has held it before. -/
theorem Runs.holds (runs : reading.Runs after) (still : after.holds = true) :
    reading.holds = true := by
  induction runs with
  | refl => exact still
  | tail _ step ih =>
    cases step with
    | task advanced => exact ih (holds_of_withFlow advanced still)
    | read done => exact ih ((leaves_read done).holds_eq ▸ still)
    | serve request done => exact ih ((leaves_serve done).holds_eq ▸ still)

/-- What becomes of the store depends on whether the query still holds its connection. -/
theorem storeAfter_eq (reading : Reading) (flow : Flow) (store : Store) :
    reading.storeAfter flow store =
      if reading.holds = true ∧ flow.holds = false then
        match reading.supply with
        | .own connection => store.release connection
        | .refused _ | .lent _ => store
      else store := by
  unfold storeAfter
  cases reading.supply <;> cases reading.holds <;> cases flow.holds <;> simp

/-- What the caller does is no matter for the store. -/
theorem storeAfter_of_leaves {middle : Reading} {store : Store} (leaves : middle.Leaves after) :
    reading.storeAfter after.stream.flow store = reading.storeAfter middle.stream.flow store := by
  have holds : after.stream.flow.holds = middle.stream.flow.holds := leaves.holds_eq
  simp only [storeAfter_eq, holds]

/-- A run of a query is a run of the system that it is a part of. -/
theorem Runs.system (runs : reading.Runs after) (store : Store) (buffer : Nat)
    (rest : Multiset Party) :
    System.Runs ⟨store, buffer, .running reading ::ₘ rest⟩
      ⟨reading.storeAfter after.stream.flow store, buffer, .running after ::ₘ rest⟩ := by
  induction runs with
  | refl =>
    have same : reading.storeAfter reading.stream.flow store = store := by
      rw [storeAfter_eq, if_neg]
      rintro ⟨held, gone⟩
      exact Bool.eq_false_iff.1 gone held
    rw [same]
    exact .refl
  | @tail middle after runs step ih =>
    refine .tail ih ?_
    have held := Runs.holds runs
    have supply := (Runs.keeps runs).supply
    cases step with
    | @task flow advanced =>
      have gone := Flow.holds_advance advanced
      have same : middle.storeAfter flow (reading.storeAfter middle.stream.flow store) =
          reading.storeAfter flow store := by
        have middle_holds : middle.stream.flow.holds = middle.holds := rfl
        simp only [storeAfter_eq, supply, middle_holds]
        cases before : reading.holds <;> cases now : middle.holds <;> simp_all
      exact ⟨.engine, same ▸ .move (.task advanced)⟩
    | read done =>
      rw [storeAfter_of_leaves (leaves_read done)]
      exact ⟨.engine, .move (.read done)⟩
    | serve request done =>
      rw [storeAfter_of_leaves (leaves_serve done)]
      exact ⟨.caller, .move (.serve done)⟩

end Reading

namespace Engine

variable {engine : Engine} {origin : System} {hands : Multiset Party}

/-! ## Queries that let go of their connections -/

section Queries

variable {reading after : Reading}

/-- A query at hand goes on. A connection for which a transaction of the engine waits must not
become free by that. -/
theorem Comes.advance (comes : engine.Comes origin (.running reading ::ₘ hands))
    (reached : origin.Reachable) (runs : reading.Runs after)
    (waits : ∀ session ∈ engine.sessions, (Party.running reading).uses = some session.connection →
      (Party.running after).uses = some session.connection) :
    Comes origin { engine with store := reading.storeAfter after.stream.flow engine.store }
      (.running after ::ₘ hands) := by
  refine comes.run reached (fun shown _ _ => ?_) fun session mem free => ?_
  · simp only [system, Multiset.cons_add]
    exact runs.system ..
  · rw [System.free_cons] at free ⊢
    exact ⟨fun uses => free.1 (waits session mem uses), free.2⟩

/-- What is due when a query has let go of a transaction's connection depends on the fate of that.
-/
theorem letGo_lent {session : Session} {connection : ConnectionId}
    (found : engine.sessions.find? (·.connection = connection) = some session) :
    engine.letGo (.lent connection) =
      match session.fate with
      | .guarded _ => engine
      | .rollBack => (engine.rollBack connection).2
      | .giveBack => engine.giveBack connection := by
  obtain ⟨_, fate⟩ := session
  cases fate <;> simp [letGo, found]

/-- What is due when a query has let go of the connection of a transaction. -/
theorem Comes.letGo {connection : ConnectionId}
    (comes : engine.Comes origin (.running reading ::ₘ hands)) (reached : origin.Reachable)
    (runs : reading.Runs after) (held : reading.holds = true) (gone : after.holds = false)
    (lent : reading.supply = .lent connection) :
    (engine.letGo (.lent connection)).Comes origin (.running after ::ₘ hands) := by
  have uses : (Party.running reading).uses = some connection := by
    simp [Party.uses, held, Reading.connection?, lent]
  have unused : (Party.running after).uses = none := by simp [Party.uses, gone]
  have store : reading.storeAfter after.stream.flow engine.store = engine.store := by
    simp [Reading.storeAfter, lent]
  obtain ⟨shown, shows, -, now⟩ := comes.exists_shown reached
  obtain ⟨free, unheld⟩ := shows.alone now.turns uses
  cases found : engine.sessions.find? (·.connection = connection) with
  | none =>
    have other : ∀ session ∈ engine.sessions, session.connection ≠ connection := by
      simpa using found
    have advanced := comes.advance reached runs fun session mem same =>
      absurd (Option.some.inj (uses.symm.trans same)).symm (other session mem)
    rw [store] at advanced
    simpa only [Engine.letGo, found] using advanced
  | some session =>
    obtain rfl : session.connection = connection := by simpa using List.find?_some found
    have mem := List.mem_of_find?_eq_some found
    obtain ⟨transaction, same, phase, taken⟩ := comes.takeSession mem
    -- the query goes on while the transaction is at hand too
    rw [Multiset.cons_swap] at taken
    have advanced := taken.advance reached runs fun other mem same =>
      absurd (Option.some.inj (uses.symm.trans same)).symm (ne_of_mem_endSession mem)
    have kept : (engine.endSession session.connection).store = engine.store := rfl
    rw [kept, store, Multiset.cons_swap] at advanced
    have free : System.Free (.running after ::ₘ hands) session.connection :=
      System.free_cons.2 ⟨by simp [unused], free⟩
    rw [letGo_lent found]
    cases fate : session.fate with
    | guarded name =>
      have idle : transaction.phase = .idle := phase.trans (congrArg Fate.phase fate)
      exact comes.putGuard reached mem fate advanced same idle
    | rollBack =>
      have abandoned : transaction.phase = .abandoned := phase.trans (congrArg Fate.phase fate)
      exact Comes.rollBack advanced reached same abandoned free unheld
    | giveBack =>
      have left : transaction.phase = .left := phase.trans (congrArg Fate.phase fate)
      exact Comes.giveBack advanced reached same left free unheld

/-- A query at hand goes on, and the engine looks whether it has let go of its connection. -/
theorem Comes.settle (comes : engine.Comes origin (.running reading ::ₘ hands))
    (reached : origin.Reachable) (runs : reading.Runs after) :
    (engine.settle after.stream reading.lease).1 = ⟨after.stream, after.lease⟩ ∧
      (engine.settle after.stream reading.lease).2.Comes origin (.running after ::ₘ hands) := by
  have supply := runs.keeps.supply
  cases held : reading.holds with
  | false =>
    have gone : after.holds = false := by
      by_contra still
      simp [runs.holds (Bool.eq_true_of_not_eq_false still)] at held
    have advanced := comes.advance reached runs (by simp [Party.uses, held])
    rw [Reading.storeAfter_eq, if_neg (by simp [held])] at advanced
    simp only [Reading.lease, held, gone, Engine.settle]
    exact ⟨rfl, advanced⟩
  | true =>
    cases still : after.holds with
    | true =>
      have uses : (Party.running after).uses = (Party.running reading).uses := by
        simp [Party.uses, held, still, Reading.connection?, supply]
      have advanced := comes.advance reached runs fun _ _ same => uses.trans same
      have still' : after.stream.flow.holds = true := still
      rw [Reading.storeAfter_eq, if_neg (by simp [still'])] at advanced
      have lease : after.lease = reading.lease := by simp [Reading.lease, held, still, supply]
      rw [lease]
      cases same : reading.lease <;> simpa [Engine.settle, still', same] using advanced
    | false =>
      have gone : after.stream.flow.holds = false := still
      have lease : after.lease = none := by simp [Reading.lease, still]
      rw [lease]
      cases source : reading.supply with
      | refused ending =>
        have advanced := comes.advance reached runs
          (by simp [Party.uses, Reading.connection?, source])
        simpa [Engine.settle, Reading.lease, held, source, Reading.storeAfter] using advanced
      | own connection =>
        have handed : (Party.running reading).handed = some connection := by
          simp [Party.handed, Reading.own?, source]
        have uses : (Party.running reading).uses = some connection := by
          simp [Party.uses, held, Reading.connection?, source]
        obtain ⟨shown, shows, -, now⟩ := comes.exists_shown reached
        have other := shows.ne_connection now.accounts (Multiset.mem_cons_self _ _) handed
        have advanced := comes.advance reached runs fun session mem same =>
          absurd (Option.some.inj (uses.symm.trans same)).symm (other session mem)
        simpa [Engine.settle, Engine.letGo, Reading.lease, held, source, gone, Reading.storeAfter]
          using advanced
      | lent connection =>
        have done := comes.letGo reached runs held still source
        simpa [Engine.settle, Reading.lease, held, source, gone] using done

/-- What is known of a query at hand. -/
theorem Comes.sound (comes : engine.Comes origin (.running reading ::ₘ hands))
    (reached : origin.Reachable) :
    reading.Sound ∧ reading.Frees ∧ 0 < reading.stream.flow.capacity := by
  obtain ⟨shown, -, -, now⟩ := comes.exists_shown reached
  have mem : .running reading ∈ (engine.system (.running reading ::ₘ hands + shown)).parties :=
    Multiset.mem_add.2 (.inl (Multiset.mem_cons_self _ _))
  exact ⟨now.sound mem, now.frees mem, now.capacity_eq mem ▸ now.buffer_pos⟩

/-- A query at hand rests when neither the task nor a waiting caller takes a step. -/
theorem Comes.rests (comes : engine.Comes origin (.running reading ::ₘ hands))
    (reached : origin.Reachable) (stuck : reading.stream.flow.advance? = none)
    (waits : reading.read? = none) : reading.Rests :=
  have ⟨sound, _, room⟩ := comes.sound reached
  Reading.rests sound room stuck waits

/-- A query at hand whose caller is done with it. -/
theorem Comes.finishReading (comes : engine.Comes origin (.running reading ::ₘ hands))
    (reached : origin.Reachable) (stuck : reading.stream.flow.advance? = none)
    (told : (∃ e, reading.reader = .refused e) ∨ ∃ answer, reading.reader = .done answer) :
    engine.Comes origin hands := by
  have waits : reading.read? = none := by
    rcases told with ⟨e, reader⟩ | ⟨answer, reader⟩ <;> simp [Reading.read?, reader]
  refine comes.finish reached (fun _ _ => comes.rests reached stuck waits) ?_
  rcases told with ⟨e, reader⟩ | ⟨answer, reader⟩ <;> simp [Party.face, reader]

/-- A query at hand goes on until its caller is done with it. -/
theorem Comes.settleFinish (comes : engine.Comes origin (.running reading ::ₘ hands))
    (reached : origin.Reachable) (reaches : reading.Reaches after)
    (told : (∃ e, after.reader = .refused e) ∨ ∃ answer, after.reader = .done answer) :
    (engine.settle after.stream reading.lease).2.Comes origin hands :=
  (comes.settle reached reaches.runs).2.finishReading reached reaches.stuck told

/-- The engine keeps its streams when a query lets go of its connection. -/
theorem streams_settle (engine : Engine) (stream : RowStream) (lease : Option Lease) :
    (engine.settle stream lease).2.streams = engine.streams := by
  have letGo (held : Lease) : (engine.letGo held).streams = engine.streams := by
    cases held with
    | own => rfl
    | lent =>
      simp only [Engine.letGo]
      split <;> rfl
  unfold Engine.settle
  split
  · split
    · rfl
    · exact letGo _
  · rfl

end Queries

/-! ## Open streams -/

section Streams

variable {reading : Reading} {name : String} {opened : OpenStream}

/-- An engine keeps an open stream under a new name. -/
theorem Comes.putStream (comes : engine.Comes origin (.running reading ::ₘ hands))
    (reached : origin.Reachable) (idle : reading.reader = .idle)
    (stuck : reading.stream.flow.advance? = none) (new : name ∉ engine.streams.map (·.1)) :
    Comes origin
      { engine with streams := engine.streams ++ [(name, ⟨reading.stream, reading.lease⟩)] }
      hands := by
  obtain ⟨shown, -, shows⟩ := id comes
  have waits : reading.read? = none := by simp [Reading.read?, idle]
  refine comes.put _ reached (fun _ _ _ => comes.rests reached stuck waits) ?_ shows.connections
    rfl rfl (by simp only [Party.face, idle]; rfl) ?_
  · rw [List.map_append]
    exact shows.names.append (List.nodup_singleton _) (by simpa using new)
  · simp only [faces, List.map_append, List.map_singleton, ← Multiset.coe_add,
      Multiset.coe_singleton]
    rw [add_right_comm, add_comm, Multiset.singleton_add]

/-- The name of a stream that an engine has forgotten is free. -/
theorem name_notMem_forgetStream (engine : Engine) (name : String) :
    name ∉ (engine.forgetStream name).streams.map (·.1) := by
  simp [forgetStream]

/-- The engine keeps the names of its other streams when it drops one. -/
theorem name_notMem_dropStream (engine : Engine) (name : String) :
    name ∉ (engine.dropStream name).streams.map (·.1) := by
  unfold Engine.dropStream
  split
  · next opened found =>
    simp only [Engine.endStream]
    rw [streams_settle]
    exact name_notMem_forgetStream engine name
  · next none =>
    have other : ∀ named opened, (named, opened) ∈ engine.streams → named ≠ name := by
      simpa [stream?] using none
    simpa using fun opened mem => other name opened mem rfl

/-- A call of `next` on an open stream. -/
theorem Comes.next (comes : engine.Comes origin hands) (reached : origin.Reachable)
    (found : engine.stream? name = some opened) :
    (engine.onStream name opened RowStream.next).2.Comes origin hands := by
  obtain ⟨reading, idle, ⟨stuck, -⟩, rfl, taken⟩ := comes.takeStream found
  obtain ⟨-, -, room⟩ := taken.sound reached
  obtain ⟨after, reaches, stream, still, -⟩ := Reading.reaches_next idle room stuck
  obtain ⟨same, settled⟩ := taken.settle reached reaches.runs
  have new : name ∉
      ((engine.forgetStream name).settle after.stream reading.lease).2.streams.map (·.1) := by
    rw [streams_settle]
    exact name_notMem_forgetStream engine name
  have put := settled.putStream reached still reaches.stuck new
  rw [← same, stream] at put
  exact put

/-- The last step on an open stream. -/
theorem Comes.endStream {α : Type} (comes : engine.Comes origin hands) (reached : origin.Reachable)
    (found : engine.stream? name = some opened) {step : RowStream → α × RowStream}
    (ends : ∀ reading : Reading, reading.reader = .idle → 0 < reading.stream.flow.capacity →
      reading.stream.flow.advance? = none → reading.Frees →
      ∃ after answer, reading.Reaches after ∧ after.stream = (step reading.stream).2 ∧
        after.reader = .done answer) :
    (engine.endStream name opened step).2.Comes origin hands := by
  obtain ⟨reading, idle, ⟨stuck, -⟩, rfl, taken⟩ := comes.takeStream found
  obtain ⟨-, frees, room⟩ := taken.sound reached
  obtain ⟨after, answer, reaches, stream, told⟩ := ends reading idle room stuck frees
  have settled := taken.settleFinish reached reaches (.inr ⟨answer, told⟩)
  rw [stream] at settled
  exact settled

/-- Reading all rows that are left of an open stream. -/
theorem Comes.collect (comes : engine.Comes origin hands) (reached : origin.Reachable)
    (found : engine.stream? name = some opened) :
    (engine.endStream name opened RowStream.collect).2.Comes origin hands :=
  comes.endStream reached found fun _ idle room stuck frees =>
    have ⟨after, reaches, stream, told⟩ := Reading.reaches_collect idle room stuck frees
    ⟨after, _, reaches, stream, told⟩

/-- Closing an open stream. -/
theorem Comes.close (comes : engine.Comes origin hands) (reached : origin.Reachable)
    (found : engine.stream? name = some opened) :
    (engine.endStream name opened RowStream.close).2.Comes origin hands :=
  comes.endStream reached found fun _ idle _ _ _ =>
    have ⟨after, reaches, stream, told⟩ := Reading.reaches_close idle
    ⟨after, _, reaches, stream, told⟩

/-- Dropping the stream of a name, if there is one. -/
theorem Comes.dropStream (comes : engine.Comes origin hands) (reached : origin.Reachable)
    (name : String) : (engine.dropStream name).Comes origin hands := by
  unfold Engine.dropStream
  split
  · next opened found =>
    exact comes.endStream reached found fun _ idle _ _ _ =>
      have ⟨after, reaches, stream, told⟩ := Reading.reaches_drop idle
      ⟨after, _, reaches, stream, told⟩
  · exact comes

end Streams

/-! ## Queries -/

section Opening

variable {purpose : Purpose} {result : Except QueryError OpenStream × Engine}

/-- A stream that an engine has just opened is that of a query at hand. A caller that wanted the
first row finds it kept, or the task at its end. -/
def Opens (origin : System) (hands : Multiset Party) (purpose : Purpose)
    (result : Except QueryError OpenStream × Engine) : Prop :=
  match result with
  | (.ok opened, engine) =>
    ∃ reading : Reading, opened = ⟨reading.stream, reading.lease⟩ ∧
      reading.reader = Reading.opened purpose ∧ reading.stream.flow.advance? = none ∧
      (reading.stream.first.isSome = true ∨ reading.stream.flow.isOver = true) ∧
      engine.Comes origin (.running reading ::ₘ hands)
  | (.error _, engine) => engine.Comes origin hands

/-- A query at hand whose caller waits for the first message. -/
theorem Comes.opening {reading : Reading} {columns : List OutputColumn} {flow : Flow}
    (comes : engine.Comes origin (.running reading ::ₘ hands)) (reached : origin.Reachable)
    (waits : reading.reader = .opening) (unopened : reading.stream = .ofUnopened columns flow) :
    Opens origin hands reading.purpose
      ((RowStream.ofFlow columns flow).1.map fun _ =>
          (engine.settle (RowStream.ofFlow columns flow).2 reading.lease).1,
        (engine.settle (RowStream.ofFlow columns flow).2 reading.lease).2) := by
  obtain ⟨-, frees, room⟩ := comes.sound reached
  have room : 0 < flow.capacity := by
    rw [unopened] at room
    exact room
  obtain ⟨after, reaches, stream, told⟩ := Reading.reaches_opening waits unopened room frees
  obtain ⟨same, settled⟩ := comes.settle reached reaches.runs
  generalize RowStream.ofFlow columns flow = outcome at stream told ⊢
  obtain ⟨e | _, opened⟩ := outcome
  · have done := comes.settleFinish reached reaches (.inl ⟨e, told⟩)
    rw [stream] at done
    exact done
  · obtain rfl : after.stream = opened := stream
    exact ⟨after, same, told.1, reaches.stuck, told.2, settled⟩

/-- A query on a connection that the party at hand has. -/
theorem Comes.runQuery {party : Party} {query : CompiledQuery} {connection : ConnectionId}
    {supply : Supply} {lease : Lease}
    (comes : engine.Comes origin (party ::ₘ hands)) (reached : origin.Reachable)
    (uses : party.uses = some connection)
    (source : (supply = .own connection ∧ lease = .own connection) ∨
      (supply = .lent connection ∧ lease = .lent connection))
    (asks : ∀ free response store,
      engine.store.query connection query.sql query.params = (response, store) →
        party.Moves engine.buffer free .engine engine.store store
          (.running (.start engine.buffer purpose query.columns supply response))) :
    Opens origin hands purpose (engine.run query connection lease) := by
  rcases asked : engine.store.query connection query.sql query.params with ⟨response, store⟩
  have started := comes.move reached (fun _ _ _ => asks _ _ _ asked) fun _ _ same => by
    rw [← same, uses]
    rcases source with ⟨rfl, -⟩ | ⟨rfl, -⟩ <;> rfl
  have unopened : (Reading.start engine.buffer purpose query.columns supply response).stream =
      .ofUnopened query.columns (.start engine.buffer response) := by
    rcases source with ⟨rfl, -⟩ | ⟨rfl, -⟩ <;> rfl
  have opened := started.opening reached rfl unopened
  have held : (Reading.start engine.buffer purpose query.columns supply response).lease =
      some lease := by
    rcases source with ⟨rfl, rfl⟩ | ⟨rfl, rfl⟩ <;> rfl
  rw [held] at opened
  unfold Engine.run
  rw [asked]
  exact opened

/-- A plan's query on a connection of its own. -/
theorem Comes.execute (comes : engine.Comes origin hands) (reached : origin.Reachable)
    (purpose : Purpose) (plan : Plan) :
    Opens origin hands purpose (engine.execute (purpose.plan plan)) := by
  unfold Engine.execute
  cases compiled : (purpose.plan plan).compile with
  | error e => exact comes
  | ok query =>
    have queued : engine.Comes origin (.queued purpose query none ::ₘ hands) :=
      comes.run reached
        (fun shown _ _ => by
          rw [Multiset.cons_add]
          exact .single ⟨.caller, .run compiled⟩)
        fun session _ free => (System.free_cons.1 free).2
    rcases acquired : engine.store.acquire with ⟨e | connection, store⟩
    · have refused := queued.move reached (fun _ _ _ => .acquire (.refused acquired))
        (by simp [Party.uses])
      exact refused.opening reached rfl rfl
    · have supplied := queued.move reached (fun _ _ _ => .acquire (.granted acquired))
        (by simp [Party.uses])
      exact supplied.runQuery reached rfl (.inl ⟨rfl, rfl⟩) fun _ _ _ asked => .queryOwn asked

/-- A plan's query within a transaction. -/
theorem Comes.executeIn {session : Session} {name : String} (comes : engine.Comes origin hands)
    (reached : origin.Reachable) (mem : session ∈ engine.sessions)
    (guarded : session.fate = .guarded name) (free : System.Free hands session.connection)
    (purpose : Purpose) (plan : Plan) :
    Opens origin hands purpose (engine.executeIn session (purpose.plan plan)) := by
  unfold Engine.executeIn claim
  split
  · next held => exact comes.refuseStep reached mem guarded held (.query purpose plan) rfl
  · next unheld =>
    have unheld : engine.isHeld session.connection = false := by simpa using unheld
    obtain ⟨transaction, same, idle, taken⟩ := comes.takeGuard mem guarded
    obtain ⟨after, same, granted, taken⟩ :=
      taken.grant reached same idle purpose plan free unheld
    cases compiled : (purpose.plan plan).compile with
    | error e =>
      have rejected := taken.move reached (fun _ _ _ => .rejectPlan granted compiled)
        fun session mem uses => by
          have uses : some after.connection = some session.connection := by
            simpa [Party.uses, granted] using uses
          exact absurd ((Option.some.inj uses).symm.trans same) (ne_of_mem_endSession mem)
      exact comes.putGuard reached mem guarded rejected same rfl
    | ok query =>
      have lent := taken.lend reached same granted compiled
      rw [Multiset.cons_swap] at lent
      have queued := comes.putGuard reached mem guarded lent same rfl
      exact Comes.runQuery queued reached rfl (.inr ⟨rfl, rfl⟩) fun _ _ _ asked => .queryLent asked

/-- Reading all rows of a stream that was just opened. -/
theorem Opens.collectOpened (opens : Opens origin hands .allRows result)
    (reached : origin.Reachable) : (collectOpened result).2.Comes origin hands := by
  obtain ⟨e | opened, engine⟩ := result
  · exact opens
  · obtain ⟨reading, rfl, waits, stuck, -, comes⟩ := opens
    obtain ⟨-, frees, room⟩ := comes.sound reached
    obtain ⟨after, reaches, stream, told⟩ := Reading.reaches_collecting waits room stuck frees
    have done := comes.settleFinish reached reaches (.inr ⟨_, told⟩)
    rw [stream] at done
    exact done

/-- Reading the first row of a stream that was just opened. -/
theorem Opens.firstOpened (opens : Opens origin hands .firstRow result)
    (reached : origin.Reachable) : (firstOpened result).2.Comes origin hands := by
  obtain ⟨e | opened, engine⟩ := result
  · exact opens
  · obtain ⟨reading, rfl, waits, stuck, known, comes⟩ := opens
    obtain ⟨-, -, room⟩ := comes.sound reached
    obtain ⟨after, reaches, stream, told⟩ := Reading.reaches_looking waits room stuck known
    have done := comes.settleFinish reached reaches (.inr ⟨_, told⟩)
    rw [stream] at done
    exact done

/-- Keeping a stream that was just opened. -/
theorem Opens.keepStream (opens : Opens origin hands .stream result) (reached : origin.Reachable)
    (name : String) : (keepStream name result).2.Comes origin hands := by
  obtain ⟨e | opened, engine⟩ := result
  · exact opens
  · obtain ⟨reading, rfl, idle, stuck, -, comes⟩ := opens
    exact (comes.dropStream reached name).putStream reached idle stuck
      (name_notMem_dropStream engine name)

end Opening

end Engine

end TypedQuery
