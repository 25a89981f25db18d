import TypedQuery.Proofs.Engine.Ownership

/-!
# One call at a time

A party makes calls on a connection only while no other party uses the connection: no two parties
use one connection (`System.Turns`), and a party that makes a call uses the connection already, or
finds it free (`Party.Speaks`). A call is therefore never made while another is under way.

The connection of a call was handed out for the party that makes it, except for that of a query
within a transaction, which is borrowed.
-/

namespace TypedQuery

/-- The calls that were made on a connection, in order. -/
def wire (log : List Call) (connection : ConnectionId) : List Call :=
  log.filter fun call => call.on? = some connection

/-- One call more, which is on the connection or not. -/
theorem wire_append (log : List Call) (call : Call) (connection : ConnectionId) :
    wire (log ++ [call]) connection =
      wire log connection ++ if call.on? = some connection then [call] else [] := by
  simp [wire, List.filter_append, List.filter_singleton]

/-- Whether a call is a query or a statement. -/
def Call.IsStep : Call → Prop
  | .query .. | .execute .. => True
  | .acquire _ | .batch .. | .begin _ | .commit _ | .rollback _ | .release .. => False

namespace Store

variable {store after : Store}

/-- A store that made no call on any connection. -/
def Mute (store after : Store) : Prop :=
  ∀ connection, wire after.log connection = wire store.log connection

/-- Giving back a connection is no call on it. -/
theorem mute_release (store : Store) (given : ConnectionId) : store.Mute (store.release given) := by
  intro connection
  show wire (store.log ++ [_]) connection = wire store.log connection
  simp [wire_append, Call.on?]

/-- The wish for a connection is no call on any. -/
theorem mute_acquires {result : Except Ending ConnectionId} (h : store.Acquires result after) :
    store.Mute after := by
  intro connection
  obtain ⟨given, -, out⟩ | ⟨ending, -, served⟩ := h.cases
  · simp [out.log, wire_append, Call.on?]
  · simp [served.log, wire_append, Call.on?]

end Store

/-- A transaction that comes to its end gives its connection back, which is no call on it. -/
theorem Transaction.mute_storeAfter (transaction : Transaction) (phase : Phase) (store : Store) :
    store.Mute (transaction.storeAfter phase store) := by
  unfold storeAfter
  split
  · exact Store.mute_release _ _
  · exact fun _ => rfl

namespace Party

/-- The connection of a transaction that a query of the transaction has. -/
def borrows : Party → Option ConnectionId
  | .queued _ _ lent => lent
  | .running reading =>
    match reading.supply with
    | .lent connection => if reading.holds then some connection else none
    | .refused _ | .own _ => none
  | .supplied .. | .doing _ | .keeping _ => none

/-- The connection on which a party has a call under way. -/
def calls : Party → Option ConnectionId
  | .running reading => if reading.holds then reading.connection? else none
  | .doing (.calling _ connection _) => some connection
  | .keeping transaction =>
    match transaction.phase with
    | .calling .. | .undoing _ => some transaction.connection
    | .idle | .claiming _ | .granted .. | .abandoned | .left | .ended => none
  | .queued .. | .supplied .. | .doing (.waiting _) | .doing (.holding ..) | .doing (.done ..) =>
    none

variable {party next : Party} {connection : ConnectionId}

/-- A query that runs borrows the connection that it was lent until it lets go of it. -/
theorem borrows_running {reading : Reading} :
    (running reading).borrows = some connection ↔
      reading.supply = .lent connection ∧ reading.holds = true := by
  cases supply : reading.supply <;> simp [borrows, supply, and_comm]

/-- A query uses the connection that it borrows. -/
theorem uses_of_borrows (h : party.borrows = some connection) : party.uses = some connection := by
  cases party with
  | queued => exact h
  | running reading =>
    obtain ⟨lent, held⟩ := borrows_running.1 h
    simp [uses, Reading.connection?, lent, held]
  | supplied | doing | keeping => simp [borrows] at h

/-- A party uses the connection that it has a call under way on. -/
theorem uses_of_calls (h : party.calls = some connection) : party.uses = some connection := by
  cases party with
  | queued | supplied => simp [calls] at h
  | running reading => exact h
  | doing errand => cases errand <;> simp_all [calls, uses]
  | keeping transaction =>
    cases phase : transaction.phase <;> simp_all [calls, uses]

/-- What a party uses was handed out for it, or is borrowed. -/
theorem handed_or_borrows (h : party.uses = some connection) :
    party.handed = some connection ∨ party.borrows = some connection := by
  cases party with
  | queued => exact .inr h
  | supplied => exact .inl h
  | running reading =>
    cases supply : reading.supply <;>
      simp_all [uses, handed, borrows, Reading.connection?, Reading.own?]
  | doing errand => cases errand <;> simp_all [uses, handed]
  | keeping transaction =>
    cases phase : transaction.phase <;> simp_all [uses, handed]

/-- A call of a party. It is the party's turn: no party uses the connection, or the party uses it
and has no call under way. The connection was handed out for the party, or the call is a step on a
borrowed one. -/
structure Speaks (free : ConnectionId → Prop) (store : Store) (party : Party) (after : Store)
    (call : Call) (connection : ConnectionId) : Prop where
  log : after.log = store.log ++ [call]
  on : call.on? = some connection
  turn : free connection ∨ (party.uses = some connection ∧ party.calls = none)
  whose : party.handed = some connection ∨ (party.borrows = some connection ∧ call.IsStep)

variable {buffer : Nat} {free : ConnectionId → Prop} {actor : Actor} {store after : Store}

/-- Every step of a party makes one call on a connection, or none. -/
theorem Moves.speaks (moved : Moves buffer free actor store party after next) :
    store.Mute after ∨ ∃ call connection, Speaks free store party after call connection := by
  cases moved with
  | acquire acquired | hire acquired => exact .inl (Store.mute_acquires acquired)
  | @queryOwn _ _ _ _ connection _ asked =>
    exact .inr ⟨_, connection, (Store.serves_query asked).log, rfl, .inr ⟨rfl, rfl⟩, .inl rfl⟩
  | @queryLent _ _ _ _ connection _ asked =>
    exact .inr ⟨_, connection, (Store.serves_query asked).log, rfl, .inr ⟨rfl, rfl⟩,
      .inr ⟨rfl, trivial⟩⟩
  | @task _ reading flow advanced =>
    refine .inl ?_
    unfold Reading.storeAfter
    split
    · split
      · exact Store.mute_release _ _
      · exact fun _ => rfl
    · exact fun _ => rfl
    · exact fun _ => rfl
  | @perform _ _ job connection _ performed =>
    exact .inr ⟨_, connection, (Job.serves_perform performed).log, by cases job <;> rfl,
      .inr ⟨rfl, rfl⟩, .inl rfl⟩
  | @complete _ job connection ending =>
    refine .inl ?_
    rcases job with _ | _
    · exact Store.mute_release _ _
    · cases ending with
      | success => exact fun _ => rfl
      | failure _ | crash => exact Store.mute_release _ _
  | @grantCall _ _ transaction call _ _ isFree performed =>
    exact .inr ⟨_, transaction.connection, (GuardCall.serves_perform performed).log,
      by cases call <;> rfl, .inl isFree, .inl rfl⟩
  | dropOutside _ isFree rolledBack | undo _ isFree rolledBack =>
    exact .inr ⟨_, _, (Store.serves_rollback rolledBack).log, rfl, .inl isFree, .inl rfl⟩
  | returned | undone | giveUp => exact .inl (Transaction.mute_storeAfter _ _ _)
  | _ => exact .inl fun _ => rfl

/-- A query uses the same connection whatever its caller does. -/
theorem uses_of_leaves {reading later : Reading} (leaves : reading.Leaves later) :
    (running later).uses = (running reading).uses := by
  simp only [Party.uses, leaves.holds_eq, Reading.connection?, leaves.supply]

/-- A step of a party leaves it what it uses, or makes it let go of that, or gives it a connection
that is free and was handed out for it, or a new one. -/
theorem Moves.uses (moved : Moves buffer free actor store party after next) :
    next.uses = none ∨ next.uses = party.uses ∨
      ∃ connection, next.uses = some connection ∧
        ((free connection ∧ party.handed = some connection) ∨ store.HandsOut connection after) := by
  cases moved with
  | acquire acquired =>
    obtain ⟨connection, rfl, out⟩ | ⟨ending, rfl, -⟩ := acquired.cases
    · exact .inr (.inr ⟨connection, rfl, .inr out⟩)
    · exact .inl (by simp [afterAcquire, Party.uses, Reading.start, Reading.connection?])
  | hire acquired =>
    obtain ⟨connection, rfl, out⟩ | ⟨ending, rfl, -⟩ := acquired.cases
    · exact .inr (.inr ⟨connection, rfl, .inr out⟩)
    · exact .inl rfl
  | queryOwn | queryLent | perform => exact .inr (.inl rfl)
  | @task _ reading flow advanced =>
    cases still : (reading.withFlow flow).holds with
    | true =>
      have before := Reading.holds_of_withFlow advanced still
      have same : (reading.withFlow flow).connection? = reading.connection? := rfl
      exact .inr (.inl (by simp only [Party.uses, still, before, same]))
    | false => exact .inl (by simp [Party.uses, still])
  | read done => exact .inr (.inl (uses_of_leaves (Reading.leaves_read done)))
  | serve done => exact .inr (.inl (uses_of_leaves (Reading.leaves_serve done)))
  | @complete _ job connection ending => cases job <;> cases ending <;> exact .inl rfl
  | ask | drop | leave | rejectPlan | undone | giveUp => exact .inl rfl
  | @refuse _ _ request => rcases request with _ | _ | _ | _ <;> exact .inl rfl
  | grantQuery _ isFree => exact .inr (.inr ⟨_, rfl, .inl ⟨isFree, rfl⟩⟩)
  | @grantCall _ _ _ call _ _ isFree _ =>
    cases call <;> exact .inr (.inr ⟨_, rfl, .inl ⟨isFree, rfl⟩⟩)
  | @returned _ _ call response =>
    cases call with
    | statement | rollback => exact .inl rfl
    | commit =>
      refine .inl ?_
      cases response.ending <;> rfl
  | dropOutside _ isFree _ | undo _ isFree _ => exact .inr (.inr ⟨_, rfl, .inl ⟨isFree, rfl⟩⟩)

end Party

namespace System

/-- No two parties use one connection, and none uses one that was not handed out, or has made a call
on it. -/
structure Turns (system : System) : Prop where
  once : ∀ connection, countOf Party.uses system.parties connection ≤ 1
  unissued : ∀ connection, system.store.issued < connection →
    countOf Party.uses system.parties connection = 0 ∧ wire system.store.log connection = []

/-- A free connection is used by no party. -/
theorem Free.countOf_eq_zero {parties : Multiset Party} {connection : ConnectionId}
    (free : Free parties connection) : countOf Party.uses parties connection = 0 :=
  Multiset.countP_eq_zero.2 free

/-- A connection that was handed out for a party has been issued. -/
theorem Accounts.issued_of_handed {system : System} (accounts : system.Accounts) {party : Party}
    (mem : party ∈ system.parties) {connection : ConnectionId}
    (handed : party.handed = some connection) : connection ≤ system.store.issued := by
  by_contra later
  have none := accounts.fresh connection (Nat.lt_of_not_le later)
  have positive : 0 < countOf Party.handed system.parties connection :=
    Multiset.countP_pos.2 ⟨party, mem, handed⟩
  rw [accounts.handed] at positive
  omega

/-- No step of a party takes back a number. -/
theorem issued_le_of_effect {store after : Store} {party next : Party}
    (effect : Party.Effect store party after next) : store.issued ≤ after.issued := by
  cases effect with
  | silent same => rw [same]
  | serves call served => rw [served.issued]
  | takes connection given =>
    rw [given.issued, given.fresh]
    exact Nat.le_succ _
  | gives connection same =>
    rw [same]
    exact Nat.le_refl _

/-- Every step of a party keeps the turns. -/
theorem Turns.move {actor : Actor} {store after : Store} {buffer : Nat} {party next : Party}
    {rest : Multiset Party} (turns : Turns ⟨store, buffer, party ::ₘ rest⟩)
    (accounts : Accounts ⟨store, buffer, party ::ₘ rest⟩)
    (moved : party.Moves buffer (Free (party ::ₘ rest)) actor store after next) :
    Turns ⟨after, buffer, next ::ₘ rest⟩ := by
  obtain ⟨once, unissued⟩ := turns
  have later : store.issued ≤ after.issued := issued_le_of_effect moved.effect
  have issued (connection : ConnectionId) (handed : party.handed = some connection) :
      connection ≤ store.issued :=
    accounts.issued_of_handed (Multiset.mem_cons_self _ _) handed
  -- a connection that is new to the party was free and is issued, or it has just been issued
  have new (connection : ConnectionId) (h : next.uses = some connection) :
      next.uses = party.uses ∨
        (countOf Party.uses (party ::ₘ rest) connection = 0 ∧ connection ≤ after.issued) := by
    rcases moved.uses with none | same | ⟨given, uses, ⟨free, handed⟩ | out⟩
    · simp [none] at h
    · exact .inl same
    · obtain rfl := Option.some.inj (uses.symm.trans h)
      exact .inr ⟨free.countOf_eq_zero, Nat.le_trans (issued _ handed) later⟩
    · obtain rfl := Option.some.inj (uses.symm.trans h)
      exact .inr ⟨(unissued _ (out.fresh ▸ Nat.lt_succ_self _)).1, Nat.le_of_eq out.issued.symm⟩
  simp only [countOf_cons] at once unissued new
  refine ⟨fun connection => ?_, fun connection beyond => ⟨?_, ?_⟩⟩
  · have before := once connection
    rw [countOf_cons]
    split
    · next uses =>
      rcases new connection uses with same | ⟨unused, -⟩
      · rwa [← same, if_pos uses] at before
      · omega
    · omega
  · have before := (unissued connection (Nat.lt_of_le_of_lt later beyond)).1
    rw [countOf_cons]
    split
    · next uses =>
      rcases new connection uses with same | ⟨-, known⟩
      · rwa [← same, if_pos uses] at before
      · exact absurd beyond (Nat.not_lt_of_le known)
    · omega
  · obtain ⟨unused, silent⟩ := unissued connection (Nat.lt_of_le_of_lt later beyond)
    rcases moved.speaks with mute | ⟨call, on, speaks⟩
    · exact (mute connection).trans silent
    · -- whoever speaks does it on a connection that was issued before
      have known : on ≤ store.issued := by
        rcases speaks.whose with handed | ⟨borrows, -⟩
        · exact issued on handed
        · by_contra beyond
          have unused := (unissued on (Nat.lt_of_not_le beyond)).1
          rw [if_pos (Party.uses_of_borrows borrows)] at unused
          omega
      have other : call.on? ≠ some connection := by
        rw [speaks.on]
        rintro ⟨⟩
        exact absurd beyond (Nat.not_lt_of_le (Nat.le_trans known later))
      simp only [speaks.log, wire_append, silent, if_neg other, List.append_nil]

/-- Parties take turns in any run. -/
theorem Reachable.turns {system : System} (reached : system.Reachable) : system.Turns := by
  induction reached with
  | start limit rules buffer => exact ⟨fun _ => Nat.zero_le _, fun _ _ => ⟨rfl, rfl⟩⟩
  | step reached step ih =>
    cases step with
    | move moved => exact ih.move reached.accounts moved
    | @lend _ _ _ transaction _ _ _ granted _ =>
      obtain ⟨once, unissued⟩ := ih
      have uses : (Party.keeping transaction).uses = some transaction.connection := by
        simp [Party.uses, granted]
      simp only [countOf_cons, uses] at once unissued
      refine ⟨?_, ?_⟩
      · simpa [countOf_cons, Party.uses] using once
      · simpa [countOf_cons, Party.uses] using unissued
    | run compiled | send job =>
      obtain ⟨once, unissued⟩ := ih
      refine ⟨?_, ?_⟩
      · simpa [countOf_cons, Party.uses] using once
      · simpa [countOf_cons, Party.uses] using unissued
    | rescript rules => exact ⟨ih.once, ih.unissued⟩

end System

end TypedQuery
