import TypedQuery.Database.Isolation
import TypedQuery.Proofs.Database.Lending

/-!
# Which connections are in a transaction

A call on a connection is nothing to the others: after it they are in a transaction if they were in
one before. The connection itself gets into a transaction by a begin that succeeds and out of it by
a commit or a roll-back that does, and by nothing else (`Database.inTransaction_perform`). A call
may run several statements, so it is a row of such uses (`Database.UsedOn`).
-/

namespace TypedQuery

namespace Database

/-! ## Connections by their numbers -/

/-- The entries under a key can be removed without a loss to other keys. -/
theorem lookup_filter {α : Type} (c d : ConnectionId) (entries : List (ConnectionId × α)) :
    (entries.filter (·.1 ≠ c)).lookup d = if d = c then none else entries.lookup d := by
  induction entries with
  | nil => simp
  | cons entry rest ih =>
    obtain ⟨key, state⟩ := entry
    by_cases removed : key = c
    · rw [List.filter_cons_of_neg (by simp [removed]), ih]
      split
      · rfl
      · next other => simp [List.lookup_cons, removed, beq_false_of_ne other]
    · rw [List.filter_cons_of_pos (by simp [removed]), List.lookup_cons, List.lookup_cons, ih]
      by_cases found : d = key
      · simp [found, removed]
      · simp [beq_false_of_ne found]

/-- Setting the state of a connection leaves the others as they were. -/
theorem connection_setConnection (db : Database) (c d : ConnectionId) (state : Connection) :
    (db.setConnection c state).connection d = if d = c then state else db.connection d := by
  unfold connection setConnection
  by_cases same : d = c
  · simp [same]
  · rw [List.lookup_cons, beq_false_of_ne same, lookup_filter]
    simp [same]

/-- Setting the state of a connection decides whether that one is in a transaction. -/
theorem inTransaction_setConnection (db : Database) (c : ConnectionId) (state : Connection) :
    (db.setConnection c state).inTransaction =
      Function.update db.inTransaction c state.transaction.isSome := by
  funext d
  rw [inTransaction, connection_setConnection, Function.update_apply]
  split
  · rfl
  · rfl

/-- Setting the state of a connection makes no difference if it stays inside or outside. -/
theorem inTransaction_setConnection_of_isSome_eq {db : Database} {c : ConnectionId}
    {state : Connection}
    (same : state.transaction.isSome = (db.connection c).transaction.isSome) :
    (db.setConnection c state).inTransaction = db.inTransaction := by
  rw [inTransaction_setConnection, same]
  exact Function.update_eq_self c db.inTransaction

/-- Remembering tables makes no difference to transactions. -/
theorem inTransaction_remember (db : Database) (c : ConnectionId) (known : Option Catalog) :
    (db.remember c known).inTransaction = db.inTransaction :=
  inTransaction_setConnection_of_isSome_eq rfl

/-- Looking which tables there are makes no difference to transactions. -/
theorem inTransaction_look (db : Database) (c : ConnectionId) :
    (db.look c).inTransaction = db.inTransaction :=
  db.inTransaction_remember c _

/-- Making changes last makes no difference to transactions. -/
theorem inTransaction_keep (db : Database) (t : Transaction) :
    (db.keep t).inTransaction = db.inTransaction := by
  unfold keep
  split
  · split
    · rfl
    · rfl
  · rfl
  · rfl

/-- A connection whose transaction has ended is outside. -/
theorem inTransaction_withoutTransaction (db : Database) (c : ConnectionId) (t : Transaction) :
    (db.withoutTransaction c t).inTransaction = Function.update db.inTransaction c false :=
  db.inTransaction_setConnection c _

/-- A connection that is closed is outside of a transaction. -/
theorem inTransaction_close (db : Database) (c : ConnectionId) :
    (db.close c).inTransaction = Function.update db.inTransaction c false := by
  have removed (ended : Database) (d : ConnectionId) :
      Database.inTransaction { ended with connections := ended.connections.filter (·.1 ≠ c) } d =
        if d = c then false else ended.inTransaction d := by
    simp only [inTransaction, connection, lookup_filter]
    split
    · rfl
    · rfl
  funext d
  rw [Function.update_apply, close, removed]
  split
  · rfl
  · next other =>
    split
    · rw [inTransaction_withoutTransaction, Function.update_of_ne other]
    · rfl

/-! ## Statements -/

/-- What a statement is to the transaction that it is run in. -/
def Statement.use : Statement → Use
  | .begin _ => .begin
  | .commit => .commit
  | .rollback => .rollback
  | .select .. | .insert .. | .update .. | .delete .. | .createTable .. | .referencesEnforced
  | .nothing => .other

/-- Changing the result of a step changes nothing in whether it succeeds. -/
theorem isOk_map {ε α β : Type} (f : α → β) (outcome : Except ε α) :
    (outcome.map f).isOk = outcome.isOk := by
  cases outcome with
  | error => rfl
  | ok => rfl

/-- A statement of another kind leaves its connection in the transaction that it was in. -/
theorem Statement.after_of_other {statement : Statement} (other : statement.use = .other)
    (succeeded before : Bool) : statement.use.after succeeded before = before := by
  rw [other]
  rfl

/-- A connection gets into a transaction by a begin that succeeds. -/
theorem inTransaction_start (db : Database) (c : ConnectionId) (onset : Onset) :
    (db.start c onset).2.inTransaction = Function.update db.inTransaction c
      (Use.begin.after (db.start c onset).1.isOk (db.inTransaction c)) := by
  unfold start
  dsimp only
  split
  · exact (Function.update_eq_self c db.inTransaction).symm
  · split
    · next inside =>
      rw [inTransaction_setConnection, inTransaction, inside]
      rfl
    · rw [inTransaction_setConnection]
      rfl

/-- A connection gets out of a transaction by a commit or a roll-back that succeeds. -/
theorem inTransaction_finish (db : Database) (c : ConnectionId) (committing : Bool) :
    (db.finish c committing).2.inTransaction = Function.update db.inTransaction c
      (!(db.finish c committing).1.isOk && db.inTransaction c) := by
  unfold finish
  dsimp only
  split
  · exact (Function.update_eq_self c db.inTransaction).symm
  · rw [inTransaction_withoutTransaction]
    congr 1
    split
    · exact db.inTransaction_keep _
    · split
      · exact db.inTransaction_remember c none
      · rfl

/-- A statement makes a difference only to the transaction of its own connection, and which one
depends on whether it begins or ends one and succeeds in it. -/
theorem inTransaction_perform (db : Database) (c : ConnectionId) (statement : Statement)
    (params : List Value) :
    (db.perform c statement params).2.inTransaction = Function.update db.inTransaction c
      (statement.use.after (db.perform c statement params).1.isOk (db.inTransaction c)) := by
  unfold perform
  split
  · rw [inTransaction_start, isOk_map]
    rfl
  · rw [inTransaction_finish, isOk_map]
    rfl
  · rw [inTransaction_finish, isOk_map]
    rfl
  · next notBegin notCommit notRollback =>
    have other : statement.use = .other := by
      cases statement with
      | begin onset => exact absurd rfl (notBegin onset)
      | commit => exact absurd rfl notCommit
      | rollback => exact absurd rfl notRollback
      | _ => rfl
    rw [Statement.after_of_other other, Function.update_eq_self]
    have looked (looks : Bool) (after : Database) (same : after.inTransaction = db.inTransaction) :
        (if looks then after.look c else after).inTransaction = db.inTransaction := by
      split
      · rw [inTransaction_look, same]
      · exact same
    dsimp only
    refine looked _ _ ?_
    split
    · next inside => exact inTransaction_setConnection_of_isSome_eq (by rw [inside]; rfl)
    · rw [inTransaction_setConnection, inTransaction_keep]
      exact Function.update_eq_self c db.inTransaction
    · exact inTransaction_setConnection_of_isSome_eq rfl

/-! ## Calls -/

/-- Which connections are in a transaction before and after any number of uses of one of them. -/
def UsedOn (c : ConnectionId) : (ConnectionId → Bool) → (ConnectionId → Bool) → Prop :=
  Relation.ReflTransGen fun before after => ∃ (use : Use) (succeeded : Bool),
    after = Function.update before c (use.after succeeded (before c))

/-- Binding a statement makes no difference to transactions. -/
theorem inTransaction_bind (db : Database) (c : ConnectionId) (statement : Statement) :
    (db.bind c statement).2.inTransaction = db.inTransaction := by
  unfold bind
  dsimp only
  split
  · split
    · rfl
    · exact db.inTransaction_remember c _
  · split
    · exact db.inTransaction_look c
    · exact db.inTransaction_remember c _

/-- Preparing a statement makes no difference to transactions. -/
theorem inTransaction_prepare (db : Database) (c : ConnectionId) (text : String) :
    (db.prepare c text).2.inTransaction = db.inTransaction := by
  unfold prepare
  split
  · rfl
  · rfl
  · rfl
  · next prepared rest _ _ =>
    have bound := db.inTransaction_bind c prepared.statement
    split
    · next same =>
      rw [same] at bound
      exact bound
    · next same =>
      rw [same] at bound
      exact bound

/-- Running a statement is a use of its connection. -/
theorem usedOn_perform (db : Database) (c : ConnectionId) (statement : Statement)
    (params : List Value) :
    UsedOn c db.inTransaction (db.perform c statement params).2.inTransaction :=
  .single ⟨_, _, db.inTransaction_perform c statement params⟩

/-- A call that runs one statement is a use of its connection, or none if it does not get to it. -/
theorem usedOn_callFirst (db : Database) (c : ConnectionId) (sql : String) (params : List Value)
    (respond : List RawRow → Database → Response) :
    UsedOn c db.inTransaction (db.callFirst c sql params respond).2.inTransaction := by
  have unchanged := db.inTransaction_prepare c sql
  unfold callFirst
  split
  · next same =>
    rw [same] at unchanged
    exact unchanged ▸ .refl
  · next after same =>
    rw [same] at unchanged
    rw [← unchanged]
    dsimp only
    split
    · exact .refl
    · split
      · exact .refl
      · next prepared _ =>
        have used := after.usedOn_perform c prepared.statement (params.map Value.stored)
        split
        · next done =>
          rw [done] at used
          exact used
        · next done =>
          rw [done] at used
          exact used

/-- Running the statements of a text is a use of the connection for each that is got to. -/
theorem usedOn_batchFrom (c : ConnectionId) (fuel : Nat) (db : Database) (sql : String) :
    UsedOn c db.inTransaction (batchFrom c fuel db sql).2.inTransaction := by
  induction fuel generalizing db sql with
  | zero => exact .refl
  | succ fuel ih =>
    have unchanged := db.inTransaction_prepare c sql
    unfold batchFrom
    split
    · exact .refl
    · split
      · next same =>
        rw [same] at unchanged
        exact unchanged ▸ .refl
      · next same =>
        rw [same] at unchanged
        exact unchanged ▸ .refl
      · next prepared rest after same =>
        rw [same] at unchanged
        rw [← unchanged]
        have used := after.usedOn_perform c prepared.statement []
        split
        · next done =>
          rw [done] at used
          exact used
        · next done =>
          rw [done] at used
          exact used.trans (ih _ _)

end Database

end TypedQuery
