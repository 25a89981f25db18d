import TypedQuery.Engine.Transaction
import TypedQuery.Proofs.Engine.Schedule
import TypedQuery.Proofs.Engine.Turns

/-!
# What an engine keeps of its parties

Whenever an engine has answered, it keeps its open streams and its open transactions, and nothing
else of what it was asked for. Those are the faces of the parties that can still do something
(`Party.face`); an engine shows parties that have these faces, and all of them rest
(`Engine.Shows`). While the engine is at work on some parties, those are in its hands: it has come
from a run of a system in which they go on beside the parties that it shows (`Engine.Comes`).
-/

namespace TypedQuery

/-- Where a transaction is between two calls of the engine. -/
def Fate.phase : Fate → Phase
  | .guarded _ => .idle
  | .rollBack => .abandoned
  | .giveBack => .left

/-- The lease by which a query holds its connection. -/
def Reading.lease (reading : Reading) : Option Lease :=
  if reading.holds then
    match reading.supply with
    | .refused _ => none
    | .own connection => some (.own connection)
    | .lent connection => some (.lent connection)
  else none

/-- What an engine keeps of a party. -/
inductive Face where
  | stream (opened : OpenStream)
  | session (connection : ConnectionId) (phase : Phase)

/-- The face of a party that can still do something between two calls of the engine. -/
def Party.face : Party → Option Face
  | .running reading =>
    match reading.reader with
    | .idle => some (.stream ⟨reading.stream, reading.lease⟩)
    | .opening | .refused _ | .collecting _ | .looking | .closing _ | .done _ => none
  | .keeping transaction =>
    match transaction.phase with
    | .idle | .abandoned | .left => some (.session transaction.connection transaction.phase)
    | .claiming _ | .granted .. | .calling .. | .undoing _ | .ended => none
  | .queued .. | .supplied .. | .doing _ => none

/-- A query has a lease on the connection that it holds. -/
theorem Reading.lease_eq {reading : Reading} {connection : ConnectionId} :
    (reading.lease = some (.own connection) ↔
        reading.holds = true ∧ reading.supply = .own connection) ∧
      (reading.lease = some (.lent connection) ↔
        reading.holds = true ∧ reading.supply = .lent connection) := by
  unfold lease
  cases reading.holds <;> cases reading.supply <;> simp

namespace Party

variable {party : Party}

/-- The face of a stream is that of a query whose caller may ask for something. -/
theorem face_eq_stream {opened : OpenStream} (h : party.face = some (.stream opened)) :
    ∃ reading, party = .running reading ∧ reading.reader = .idle ∧
      opened = ⟨reading.stream, reading.lease⟩ := by
  unfold face at h
  split at h
  · next reading =>
    split at h
    · next idle => exact ⟨reading, rfl, idle, by simpa using h.symm⟩
    all_goals simp at h
  · split at h <;> simp at h
  all_goals simp at h

/-- The face of a transaction is that of one that nobody is about to answer. -/
theorem face_eq_session {connection : ConnectionId} {phase : Phase}
    (h : party.face = some (.session connection phase)) :
    ∃ transaction, party = .keeping transaction ∧ transaction.connection = connection ∧
      transaction.phase = phase := by
  unfold face at h
  split at h
  · split at h <;> simp at h
  · next transaction =>
    split at h
    all_goals simp only [Option.some.injEq, Face.session.injEq, reduceCtorEq] at h
    all_goals exact ⟨transaction, rfl, h⟩
  all_goals simp at h

end Party

/-- A transaction that rests goes on resting unless the connection it waits for becomes free. -/
theorem Phase.Rests.mono {phase : Phase} {free free' : Prop} (rests : phase.Rests free)
    (waits : phase = .abandoned ∨ phase = .left → free' → free) : phase.Rests free' := by
  cases phase with
  | idle | ended => trivial
  | abandoned => exact fun now => rests (waits (.inl rfl) now)
  | left => exact fun now => rests (waits (.inr rfl) now)
  | claiming | granted | calling | undoing => exact rests.elim

namespace System

/-- Any number of steps of a system. -/
def Runs : System → System → Prop :=
  Relation.ReflTransGen fun before after => ∃ actor, Step actor before after

/-- What comes of a run may be going on. -/
theorem Runs.reachable {before after : System} (runs : before.Runs after)
    (reached : before.Reachable) : after.Reachable := by
  induction runs with
  | refl => exact reached
  | tail _ step ih =>
    obtain ⟨actor, step⟩ := step
    exact ih.step step

/-- Where nobody is, every connection is free. -/
theorem free_zero (connection : ConnectionId) : Free 0 connection :=
  fun _ mem => absurd mem (Multiset.notMem_zero _)

/-- A connection is free among the parties of two systems if it is free in both. -/
theorem free_add {parties others : Multiset Party} {connection : ConnectionId} :
    Free (parties + others) connection ↔ Free parties connection ∧ Free others connection := by
  simp only [Free, Multiset.mem_add, or_imp, forall_and]

/-- A connection is free if neither a party nor the others use it. -/
theorem free_cons {party : Party} {parties : Multiset Party} {connection : ConnectionId} :
    Free (party ::ₘ parties) connection ↔
      party.uses ≠ some connection ∧ Free parties connection := by
  simp only [Free, Multiset.forall_mem_cons]

/-- A party that rests and uses a connection is a query whose stream is open. -/
theorem Rests.face_of_uses {system : System} {party : Party} (rests : system.Rests party)
    {connection : ConnectionId} (uses : party.uses = some connection) :
    ∃ opened, party.face = some (.stream opened) ∧
      (opened.lease = some (.lent connection) ∨ party.handed = some connection) := by
  cases party with
  | queued | supplied => exact rests.elim
  | running reading =>
    have held : reading.holds = true := by
      by_contra gone
      simp [Party.uses, gone] at uses
    have rests : reading.Rests := rests
    have idle : reading.reader = .idle := by
      have ends := rests.2
      cases reader : reading.reader <;> simp only [reader] at ends
      · rw [Reading.holds, Flow.holds_of_isOver ends] at held
        simp at held
      · rfl
      · rw [Reading.holds, Flow.holds_of_isOver ends] at held
        simp at held
    refine ⟨⟨reading.stream, reading.lease⟩, by simp [Party.face, idle], ?_⟩
    rcases Party.handed_or_borrows uses with handed | borrows
    · exact .inr handed
    · exact .inl (Reading.lease_eq.2.2 (Party.borrows_running.1 borrows).symm)
  | doing errand =>
    obtain ⟨_, _, rfl⟩ := rests
    simp [Party.uses] at uses
  | keeping transaction =>
    have rests : transaction.phase.Rests _ := rests
    cases phase : transaction.phase <;> simp_all [Party.uses, Phase.Rests]

/-- A party that rests and owns a connection has a face. -/
theorem Rests.face_of_owns {system : System} {party : Party} (rests : system.Rests party)
    {connection : ConnectionId} (owns : party.owns = some connection) :
    ∃ face, party.face = some face := by
  cases party with
  | queued => simp [Party.owns] at owns
  | supplied => exact rests.elim
  | running reading =>
    have uses : (Party.running reading).uses = some connection := by
      have handed := Party.handed_of_owns owns
      cases supply : reading.supply <;>
        simp_all [Party.owns, Party.handed, Party.uses, Reading.own?, Reading.connection?]
    obtain ⟨opened, face, -⟩ := rests.face_of_uses uses
    exact ⟨_, face⟩
  | doing errand =>
    obtain ⟨_, _, rfl⟩ := rests
    simp [Party.owns] at owns
  | keeping transaction =>
    have rests : transaction.phase.Rests _ := rests
    cases phase : transaction.phase <;>
      simp_all [Party.owns, Party.face, Phase.Rests, Phase.isOver]

/-- The connection of a party was handed out for no party besides. -/
theorem Accounts.ne_handed {system : System} (accounts : system.Accounts)
    {these others : Multiset Party} (parties : system.parties = these + others) {one other : Party}
    (mem : one ∈ these) (mem' : other ∈ others) {connection : ConnectionId}
    (handed : one.handed = some connection) : other.handed ≠ some connection := by
  intro handed'
  have once : countOf Party.handed system.parties connection ≤ 1 :=
    accounts.handed connection ▸ accounts.once connection
  have here : 0 < countOf Party.handed these connection := Multiset.countP_pos.2 ⟨one, mem, handed⟩
  have there : 0 < countOf Party.handed others connection :=
    Multiset.countP_pos.2 ⟨other, mem', handed'⟩
  rw [parties, countOf, Multiset.countP_add] at once
  unfold countOf at here there
  omega

end System

namespace Engine

variable {engine : Engine}

/-- The faces that an engine keeps. -/
def faces (engine : Engine) : Multiset Face :=
  (engine.streams.map fun named => Face.stream named.2 : List Face) +
    (engine.sessions.map fun session =>
      Face.session session.connection session.fate.phase : List Face)

/-- What is going on in an engine with some parties. -/
def system (engine : Engine) (parties : Multiset Party) : System :=
  ⟨engine.store, engine.buffer, parties⟩

/-- An engine keeps the faces of some parties, which rest while it has others in its hands. -/
structure Shows (engine : Engine) (hands shown : Multiset Party) : Prop where
  names : (engine.streams.map (·.1)).Nodup
  connections : (engine.sessions.map (·.connection)).Nodup
  faces : shown.filterMap Party.face = engine.faces
  rests : ∀ party ∈ shown, (engine.system (hands + shown)).Rests party

/-- An engine with some parties in its hands has come from a system by a run. -/
def Comes (origin : System) (engine : Engine) (hands : Multiset Party) : Prop :=
  ∃ shown, origin.Runs (engine.system (hands + shown)) ∧ engine.Shows hands shown

/-- The face of a stream. -/
theorem stream_mem_faces {opened : OpenStream} :
    Face.stream opened ∈ engine.faces ↔ ∃ name, (name, opened) ∈ engine.streams := by
  simp [faces]

/-- The face of a transaction. -/
theorem session_mem_faces {connection : ConnectionId} {phase : Phase} :
    Face.session connection phase ∈ engine.faces ↔
      ∃ session ∈ engine.sessions,
        session.connection = connection ∧ session.fate.phase = phase := by
  simp [faces]

/-- A connection is held if an open stream has a lease on it. -/
theorem isHeld_iff {connection : ConnectionId} :
    engine.isHeld connection = true ↔
      ∃ opened, Face.stream opened ∈ engine.faces ∧ opened.lease = some (.lent connection) := by
  simp only [isHeld, List.any_eq_true, decide_eq_true_eq, stream_mem_faces]
  constructor
  · rintro ⟨⟨name, opened⟩, mem, lease⟩
    exact ⟨opened, ⟨name, mem⟩, lease⟩
  · rintro ⟨opened, ⟨name, mem⟩, lease⟩
    exact ⟨(name, opened), mem, lease⟩

section Shows

variable {hands shown : Multiset Party} {connection : ConnectionId}

/-- Every stream that an engine keeps is that of a query that rests. -/
theorem Shows.exists_reading (shows : engine.Shows hands shown) {opened : OpenStream}
    (mem : Face.stream opened ∈ engine.faces) :
    ∃ reading, .running reading ∈ shown ∧ reading.Rests ∧ reading.reader = .idle ∧
      opened = ⟨reading.stream, reading.lease⟩ := by
  rw [← shows.faces, Multiset.mem_filterMap] at mem
  obtain ⟨party, mem, face⟩ := mem
  obtain ⟨reading, rfl, idle, same⟩ := Party.face_eq_stream face
  exact ⟨reading, mem, shows.rests _ mem, idle, same⟩

/-- Every transaction that an engine keeps has a party. -/
theorem Shows.exists_transaction (shows : engine.Shows hands shown) {session : Session}
    (mem : session ∈ engine.sessions) :
    ∃ transaction, .keeping transaction ∈ shown ∧ transaction.connection = session.connection ∧
      transaction.phase = session.fate.phase := by
  have mem : Face.session session.connection session.fate.phase ∈ engine.faces :=
    session_mem_faces.2 ⟨session, mem, rfl, rfl⟩
  rw [← shows.faces, Multiset.mem_filterMap] at mem
  obtain ⟨party, mem, face⟩ := mem
  obtain ⟨transaction, rfl, same⟩ := Party.face_eq_session face
  exact ⟨transaction, mem, same⟩

/-- A connection that an engine knows to be held is used by a query. -/
theorem Shows.exists_uses (shows : engine.Shows hands shown)
    (held : engine.isHeld connection = true) :
    ∃ party ∈ shown, party.uses = some connection := by
  obtain ⟨opened, mem, lease⟩ := isHeld_iff.1 held
  obtain ⟨reading, mem', -, -, rfl⟩ := shows.exists_reading mem
  obtain ⟨holds, supply⟩ := Reading.lease_eq.2.1 lease
  exact ⟨_, mem', by simp [Party.uses, holds, Reading.connection?, supply]⟩

/-- A connection that an engine knows to be held is not free. -/
theorem Shows.not_free (shows : engine.Shows hands shown) (held : engine.isHeld connection = true) :
    ¬System.Free (hands + shown) connection := by
  obtain ⟨party, mem, uses⟩ := shows.exists_uses held
  exact fun free => free party (Multiset.mem_add.2 (.inr mem)) uses

/-- A connection that a party at hand uses is used by no other, and the engine does not take it for
held. -/
theorem Shows.alone {party : Party} (shows : engine.Shows (party ::ₘ hands) shown)
    (turns : (engine.system (party ::ₘ hands + shown)).Turns)
    (uses : party.uses = some connection) :
    System.Free hands connection ∧ engine.isHeld connection = false := by
  -- the party accounts for the one use that there may be
  have once : countOf Party.uses (party ::ₘ hands + shown) connection ≤ 1 := turns.once connection
  rw [Multiset.cons_add, countOf_cons, if_pos uses] at once
  have unused : System.Free (hands + shown) connection :=
    Multiset.countP_eq_zero.1 (Nat.le_zero.1 (Nat.le_of_succ_le_succ once))
  refine ⟨(System.free_add.1 unused).1, ?_⟩
  by_contra held
  obtain ⟨other, mem, uses⟩ := shows.exists_uses (Bool.eq_true_of_not_eq_false held)
  exact (System.free_add.1 unused).2 other mem uses

/-- A connection of a party at hand is free if no party at hand uses it and the engine does not know
it to be held. -/
theorem Shows.free (shows : engine.Shows hands shown)
    (accounts : (engine.system (hands + shown)).Accounts) {party : Party} (mem : party ∈ hands)
    (handed : party.handed = some connection) (free : System.Free hands connection)
    (unheld : engine.isHeld connection = false) : System.Free (hands + shown) connection := by
  refine System.free_add.2 ⟨free, fun other mem' uses => ?_⟩
  obtain ⟨opened, face, lease | handed'⟩ := (shows.rests other mem').face_of_uses uses
  · have held : engine.isHeld connection = true :=
      isHeld_iff.2 ⟨opened, shows.faces ▸ (Multiset.mem_filterMap _ _).2 ⟨other, mem', face⟩, lease⟩
    simp [unheld] at held
  · exact accounts.ne_handed rfl mem mem' handed handed'

/-- The connection of a party at hand is not that of a transaction that the engine keeps. -/
theorem Shows.ne_connection (shows : engine.Shows hands shown)
    (accounts : (engine.system (hands + shown)).Accounts) {party : Party} (mem : party ∈ hands)
    (handed : party.handed = some connection) :
    ∀ session ∈ engine.sessions, session.connection ≠ connection := by
  rintro session mem' rfl
  obtain ⟨transaction, mem', same, -⟩ := shows.exists_transaction mem'
  exact accounts.ne_handed rfl mem mem' handed (congrArg some same)

end Shows

section Comes

variable {origin : System} {hands : Multiset Party}

/-- What goes on in an engine and in its hands may be going on. -/
theorem Comes.exists_shown (comes : engine.Comes origin hands) (reached : origin.Reachable) :
    ∃ shown, engine.Shows hands shown ∧ origin.Runs (engine.system (hands + shown)) ∧
      (engine.system (hands + shown)).Reachable := by
  obtain ⟨shown, runs, shows⟩ := comes
  exact ⟨shown, shows, runs, runs.reachable reached⟩

/-- The parties at hand go on. A connection for which a transaction of the engine waits must not
become free by that. -/
theorem Comes.run (comes : engine.Comes origin hands) (reached : origin.Reachable) {store : Store}
    {next : Multiset Party}
    (runs : ∀ shown, engine.Shows hands shown → (engine.system (hands + shown)).Reachable →
      (engine.system (hands + shown)).Runs ⟨store, engine.buffer, next + shown⟩)
    (waits : ∀ session ∈ engine.sessions, System.Free next session.connection →
      System.Free hands session.connection) :
    Comes origin { engine with store } next := by
  obtain ⟨shown, shows, came, reached⟩ := comes.exists_shown reached
  refine ⟨shown, came.trans (runs shown shows reached), shows.names, shows.connections,
    shows.faces, ?_⟩
  intro party mem
  have rests := shows.rests party mem
  cases party with
  | queued | supplied | running | doing => exact rests
  | keeping transaction =>
    -- a transaction that waits for its connection is one that the engine keeps
    refine Phase.Rests.mono rests fun waiting free => ?_
    have face : (Party.keeping transaction).face =
        some (.session transaction.connection transaction.phase) := by
      rcases waiting with phase | phase <;> simp [Party.face, phase]
    have known : Face.session transaction.connection transaction.phase ∈ engine.faces :=
      shows.faces ▸ (Multiset.mem_filterMap _ _).2 ⟨_, mem, face⟩
    obtain ⟨session, mem, same, -⟩ := session_mem_faces.1 known
    obtain ⟨hands, shown⟩ := System.free_add.1 free
    exact System.free_add.2 ⟨same ▸ waits session mem (same ▸ hands), shown⟩

/-- Once a party at hand rests, an engine keeps its face. -/
theorem Comes.put {party : Party} {face : Face} (after : Engine)
    (comes : engine.Comes origin (party ::ₘ hands)) (reached : origin.Reachable)
    (rests : ∀ shown, engine.Shows (party ::ₘ hands) shown →
      (engine.system (party ::ₘ hands + shown)).Reachable →
        (engine.system (party ::ₘ hands + shown)).Rests party)
    (names : (after.streams.map (·.1)).Nodup)
    (connections : (after.sessions.map (·.connection)).Nodup)
    (store : after.store = engine.store) (buffer : after.buffer = engine.buffer)
    (kept : party.face = some face) (faces : after.faces = face ::ₘ engine.faces) :
    after.Comes origin hands := by
  obtain ⟨shown, shows, came, reached⟩ := comes.exists_shown reached
  have same : after.system (hands + party ::ₘ shown) =
      engine.system (party ::ₘ hands + shown) := by
    simp [system, store, buffer]
  refine ⟨party ::ₘ shown, same ▸ came, names, connections, ?_, ?_⟩
  · rw [Multiset.filterMap_cons_some _ _ _ kept, shows.faces, faces]
  · rw [same]
    exact Multiset.forall_mem_cons.2 ⟨rests shown shows reached, shows.rests⟩

/-- Once a party at hand has nothing left to do, an engine knows nothing more of it. -/
theorem Comes.finish {party : Party} (comes : engine.Comes origin (party ::ₘ hands))
    (reached : origin.Reachable)
    (rests : ∀ shown, (engine.system (party ::ₘ hands + shown)).Reachable →
      (engine.system (party ::ₘ hands + shown)).Rests party)
    (done : party.face = none) : engine.Comes origin hands := by
  obtain ⟨shown, shows, came, reached⟩ := comes.exists_shown reached
  have same : engine.system (hands + party ::ₘ shown) =
      engine.system (party ::ₘ hands + shown) := by
    simp [system]
  refine ⟨party ::ₘ shown, same ▸ came, shows.names, shows.connections, ?_, ?_⟩
  · rw [Multiset.filterMap_cons_none _ _ done, shows.faces]
  · rw [same]
    exact Multiset.forall_mem_cons.2 ⟨rests shown reached, shows.rests⟩

/-- An engine takes the party that has one of its faces into its hands. -/
theorem Comes.take {face : Face} (after : Engine) (comes : engine.Comes origin hands)
    (names : (after.streams.map (·.1)).Nodup)
    (connections : (after.sessions.map (·.connection)).Nodup)
    (store : after.store = engine.store) (buffer : after.buffer = engine.buffer)
    (faces : engine.faces = face ::ₘ after.faces) :
    ∃ party, party.face = some face ∧ (∀ reading, party = .running reading → reading.Rests) ∧
      after.Comes origin (party ::ₘ hands) := by
  obtain ⟨shown, came, shows⟩ := comes
  have mem : face ∈ shown.filterMap Party.face := by
    rw [shows.faces, faces]
    exact Multiset.mem_cons_self _ _
  obtain ⟨party, mem, kept⟩ := (Multiset.mem_filterMap _ _).1 mem
  obtain ⟨rest, rfl⟩ := Multiset.exists_cons_of_mem mem
  have same : engine.system (hands + party ::ₘ rest) =
      after.system (party ::ₘ hands + rest) := by
    simp [system, store, buffer]
  have rests := same ▸ shows.rests
  refine ⟨party, kept, ?_, rest, same ▸ came, names, connections, ?_, ?_⟩
  · rintro reading rfl
    exact rests _ mem
  · have all := shows.faces
    rw [Multiset.filterMap_cons_some _ _ _ kept, faces] at all
    exact (Multiset.cons_inj_right _).1 all
  · exact fun party mem => rests party (Multiset.mem_cons_of_mem mem)

/-- A party at hand takes a step. A connection for which a transaction of the engine waits must not
become free by that. -/
theorem Comes.move {actor : Actor} {party next : Party} {store : Store}
    (comes : engine.Comes origin (party ::ₘ hands)) (reached : origin.Reachable)
    (moved : ∀ shown, engine.Shows (party ::ₘ hands) shown →
      (engine.system (party ::ₘ hands + shown)).Reachable →
        party.Moves engine.buffer (System.Free (party ::ₘ hands + shown)) actor engine.store
          store next)
    (waits : ∀ session ∈ engine.sessions, party.uses = some session.connection →
      next.uses = some session.connection) :
    Comes origin { engine with store } (next ::ₘ hands) := by
  refine comes.run reached (fun shown shows reached => ?_) fun session mem free => ?_
  · have moved := moved shown shows reached
    simp only [system, Multiset.cons_add] at moved ⊢
    exact .single ⟨actor, .move moved⟩
  · rw [System.free_cons] at free ⊢
    exact ⟨fun uses => free.1 (waits session mem uses), free.2⟩

end Comes

/-! ## Open streams and transactions -/

/-- If keys are unique, an entry and the entries with other keys are all. -/
theorem coe_map_eq_cons {α β γ : Type} [DecidableEq β] {entries : List α} {key : α → β}
    (unique : (entries.map key).Nodup) {entry : α} (mem : entry ∈ entries) (f : α → γ) :
    (entries.map f : Multiset γ) =
      f entry ::ₘ ((entries.filter fun other => key other ≠ key entry).map f : List γ) := by
  induction entries with
  | nil => simp at mem
  | cons first rest ih =>
    obtain ⟨new, unique⟩ := List.nodup_cons.1 unique
    rw [List.map_cons, ← Multiset.cons_coe]
    rcases List.mem_cons.1 mem with rfl | mem
    · have others : rest.filter (fun other => key other ≠ key entry) = rest :=
        List.filter_eq_self.2 fun other mem' => by
          simpa using fun same : key other = key entry => new (same ▸ List.mem_map_of_mem mem')
      rw [List.filter_cons_of_neg (by simp), others]
    · have other : key first ≠ key entry := fun same => new (same ▸ List.mem_map_of_mem mem)
      rw [List.filter_cons_of_pos (by simpa using other), ih unique mem, List.map_cons,
        ← Multiset.cons_coe, Multiset.cons_swap]

variable {session : Session} {fate : Fate}

/-- The face of a transaction, and what an engine keeps besides. -/
theorem faces_endSession (connections : (engine.sessions.map (·.connection)).Nodup)
    (mem : session ∈ engine.sessions) :
    engine.faces =
      .session session.connection session.fate.phase ::ₘ
        (engine.endSession session.connection).faces := by
  simp only [faces, endSession]
  rw [coe_map_eq_cons connections mem, Multiset.add_cons]

/-- The face of a transaction whose fate has changed, and what an engine keeps besides. -/
theorem faces_setFate (connections : (engine.sessions.map (·.connection)).Nodup)
    (mem : session ∈ engine.sessions) :
    (engine.setFate session.connection fate).faces =
      .session session.connection fate.phase ::ₘ
        (engine.endSession session.connection).faces := by
  have others : ((engine.sessions.filter fun other => other.connection ≠ session.connection).map
      fun other => Face.session
        (if other.connection = session.connection then { other with fate } else other).connection
        (if other.connection = session.connection then { other with fate } else other).fate.phase) =
      (engine.sessions.filter fun other => other.connection ≠ session.connection).map
        fun other => Face.session other.connection other.fate.phase :=
    List.map_congr_left fun other mem => by
      have other : other.connection ≠ session.connection := by
        simpa using (List.mem_filter.1 mem).2
      simp [other]
  simp only [faces, endSession, setFate, List.map_map, Function.comp_def]
  rw [coe_map_eq_cons connections mem, Multiset.add_cons, others]
  simp

/-- The face of a stream, and what an engine keeps besides. -/
theorem faces_forgetStream {name : String} {opened : OpenStream}
    (names : (engine.streams.map (·.1)).Nodup) (mem : (name, opened) ∈ engine.streams) :
    engine.faces = .stream opened ::ₘ (engine.forgetStream name).faces := by
  simp only [faces, forgetStream]
  rw [coe_map_eq_cons names mem, Multiset.cons_add]

/-- The names of the transactions' connections stay unique when a fate changes. -/
theorem connections_setFate (connection : ConnectionId) :
    (engine.setFate connection fate).sessions.map (·.connection) =
      engine.sessions.map (·.connection) := by
  simp only [setFate, List.map_map]
  refine List.map_congr_left fun session _ => ?_
  by_cases same : session.connection = connection <;> simp [same]

/-- An engine that is found to have a transaction of a name has it. -/
theorem session_of_find {name : String} (found : engine.session? name = some session) :
    session ∈ engine.sessions ∧ session.fate = .guarded name :=
  ⟨List.mem_of_find?_eq_some found, by simpa using List.find?_some found⟩

/-- An engine that is found to have a stream of a name has it. -/
theorem stream_of_find {name : String} {opened : OpenStream}
    (found : engine.stream? name = some opened) : (name, opened) ∈ engine.streams := by
  obtain ⟨⟨other, opened⟩, first, rfl⟩ := Option.map_eq_some_iff.1 found
  have same : other = name := by simpa using List.find?_some first
  exact same ▸ List.mem_of_find?_eq_some first

section Comes

variable {origin : System} {hands : Multiset Party}

/-- An engine takes one of its transactions into its hands. -/
theorem Comes.takeSession (comes : engine.Comes origin hands) (mem : session ∈ engine.sessions) :
    ∃ transaction, transaction.connection = session.connection ∧
      transaction.phase = session.fate.phase ∧
      (engine.endSession session.connection).Comes origin (.keeping transaction ::ₘ hands) := by
  obtain ⟨shown, -, shows⟩ := id comes
  obtain ⟨party, face, -, taken⟩ := comes.take (engine.endSession session.connection)
    shows.names (shows.connections.sublist (List.filter_sublist.map _)) rfl rfl
    (faces_endSession shows.connections mem)
  obtain ⟨transaction, rfl, same, phase⟩ := Party.face_eq_session face
  exact ⟨transaction, same, phase, taken⟩

/-- An engine takes one of its streams into its hands. -/
theorem Comes.takeStream {name : String} {opened : OpenStream} (comes : engine.Comes origin hands)
    (found : engine.stream? name = some opened) :
    ∃ reading, reading.reader = .idle ∧ reading.Rests ∧
      opened = ⟨reading.stream, reading.lease⟩ ∧
      (engine.forgetStream name).Comes origin (.running reading ::ₘ hands) := by
  obtain ⟨shown, -, shows⟩ := id comes
  obtain ⟨party, face, rests, taken⟩ := comes.take (engine.forgetStream name)
    (shows.names.sublist (List.filter_sublist.map _)) shows.connections rfl rfl
    (faces_forgetStream shows.names (stream_of_find found))
  obtain ⟨reading, rfl, idle, same⟩ := Party.face_eq_stream face
  exact ⟨reading, idle, rests reading rfl, same, taken⟩

end Comes

end Engine

end TypedQuery
