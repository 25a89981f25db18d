import TypedQuery.Proofs.Database.Balance
import TypedQuery.Proofs.Database.Transactions
import TypedQuery.Proofs.Outcome

/-!
# Calls on a pooled database are steps of its clients

A program that makes one call after another takes the steps of a call without a step of anyone else
between them. So what it makes of a pooled database is what clients can make of a pool
(`PooledDatabase.Reached.keeps`), and all that holds of the one holds of the other; the count of
open connections is an instance (`PooledDatabase.Reached.openConnections_eq`).

The transactions of the connections are those of the database itself here, not any that a begin, a
commit and a roll-back might lead to.
-/

namespace TypedQuery.PooledDatabase

open Database

variable {store : PooledDatabase} {lent : Multiset (String × ConnectionId)} {limit : Nat}

/-- A pooled database with connections lent out as given, and no client amid a call. -/
def lending (store : PooledDatabase) (lent : Multiset (String × ConnectionId)) : Lending :=
  { pool := store.pool
    lent
    issued := store.issued
    inTransaction := store.database.inTransaction }

/-- What is lent out after a client has asked for a connection. -/
def lentAfter (client : String) (lent : Multiset (String × ConnectionId)) :
    Except QueryError ConnectionId → Multiset (String × ConnectionId)
  | .ok c => (client, c) ::ₘ lent
  | .error _ => lent

/-- A client that has a place for a connection opens it, or gives the place up. -/
theorem reachable_connect (client : String)
    (h : Lending.Reachable limit { store.lending lent with opening := {client} }) :
    Lending.Reachable limit (store.connect.2.lending (lentAfter client lent store.connect.1)) := by
  have mem : client ∈ ({client} : Multiset String) := Multiset.mem_singleton_self client
  have gone : ({client} : Multiset String).erase client = 0 := Multiset.erase_singleton client
  have refused := h.tail (.giveUp mem)
  simp only [Lending.giveUp, gone] at refused
  have opened := h.tail (.connect mem)
  -- A connection that is not opened yet is outside of a transaction, so opening it changes nothing.
  have outside : store.database.inTransaction (store.issued + 1) = false :=
    h.apart.unissued (store.issued + 1) (Nat.lt_succ_self store.issued)
  simp only [Lending.connect, gone, lending, ← outside, Function.update_eq_self] at opened
  unfold connect
  dsimp only
  split
  · exact refused
  all_goals
    split
    · exact refused
    · simp only [lending, lentAfter, inTransaction_look]
      exact opened

/-- A client that asks for a connection gets one or an error. -/
theorem reachable_checkout (client : String) (h : Lending.Reachable limit (store.lending lent)) :
    Lending.Reachable limit
      (store.checkout.2.lending (lentAfter client lent store.checkout.1)) := by
  have step := h.tail (.ask client)
  obtain ⟨c, rest, -, asked⟩ | ⟨-, -, asked⟩ | ⟨-, -, asked⟩ := store.pool.checkout_cases
  · simp only [Lending.ask, lending, asked] at step
    simp only [checkout, asked]
    exact step
  · simp only [Lending.ask, lending, asked] at step
    simp only [checkout, asked]
    exact reachable_connect client step
  · simp only [checkout, asked]
    exact h

/-- A client that gives a connection back drops it, and it is closed at once if it has to be. -/
theorem reachable_takeBack {client : String} {c : ConnectionId}
    (h : Lending.Reachable limit (store.lending ((client, c) ::ₘ lent))) :
    Lending.Reachable limit ((store.takeBack c).lending lent) := by
  have dropped := h.tail (.drop (Multiset.mem_cons_self (client, c) lent))
  unfold takeBack
  cases status : store.database.inTransaction c with
  | false =>
    rw [Lending.drop_of_outside status] at dropped
    simp only [lending, Multiset.erase_cons_head] at dropped
    exact dropped
  | true =>
    rw [Lending.drop_of_inside status] at dropped
    have closed := dropped.tail (.close (Multiset.mem_cons_self c 0))
    simp only [lending, Lending.close, Multiset.erase_cons_head] at closed
    simp only [lending, ↓reduceIte, inTransaction_close]
    exact closed

/-- What is done on a connection that a client holds is a number of uses of it. -/
theorem reachable_use {α : Type} {client : String} {c : ConnectionId}
    (call : Database → α × Database) (held : (client, c) ∈ lent)
    (used : UsedOn c store.database.inTransaction (call store.database).2.inTransaction)
    (h : Lending.Reachable limit (store.lending lent)) :
    Lending.Reachable limit ((store.use call).2.lending lent) := by
  show Lending.Reachable limit
    { store.lending lent with inTransaction := (call store.database).2.inTransaction }
  generalize (call store.database).2.inTransaction = status at used ⊢
  induction used with
  | refl => exact h
  | tail _ step ih =>
    obtain ⟨use, succeeded, rfl⟩ := step
    exact ih.tail (.use use succeeded held)

/-! ## Clients by their names -/

/-- Where a name does not occur, nothing is removed with it. -/
theorem filter_ne_eq_self {held : List (String × ConnectionId)} {client : String}
    (absent : client ∉ held.map Prod.fst) : held.filter (·.1 ≠ client) = held := by
  rw [List.filter_eq_self]
  intro entry mem
  have other : entry.1 ≠ client := fun same => absent (same ▸ List.mem_map_of_mem mem)
  exact decide_eq_true other

/-- What is held under a name that occurs once can be taken out. -/
theorem cons_filter_of_lookup {held : List (String × ConnectionId)} {client : String}
    {c : ConnectionId} (names : (held.map Prod.fst).Nodup) (found : held.lookup client = some c) :
    (held : Multiset (String × ConnectionId)) = (client, c) ::ₘ ↑(held.filter (·.1 ≠ client)) := by
  induction held with
  | nil => cases found
  | cons entry rest ih =>
    obtain ⟨name, d⟩ := entry
    obtain ⟨new, names⟩ := List.nodup_cons.1 names
    by_cases same : client = name
    · subst same
      obtain rfl : d = c := by simpa using found
      rw [List.filter_cons_of_neg (by simp), filter_ne_eq_self new, Multiset.cons_coe]
    · rw [List.lookup_cons, beq_false_of_ne same] at found
      rw [List.filter_cons_of_pos (by simp [Ne.symm same]), ← Multiset.cons_coe, ih names found,
        ← Multiset.cons_coe, Multiset.cons_swap]

/-- Asking for a connection is nothing to what clients hold already. -/
theorem held_checkout (store : PooledDatabase) : store.checkout.2.held = store.held := by
  have connected (store : PooledDatabase) : store.connect.2.held = store.held := by
    unfold connect
    dsimp only
    split
    · rfl
    all_goals
      split
      · rfl
      · rfl
  obtain ⟨c, rest, -, asked⟩ | ⟨-, -, asked⟩ | ⟨-, -, asked⟩ := store.pool.checkout_cases
  · simp only [checkout, asked]
  · simp only [checkout, asked, connected]
  · simp only [checkout, asked]

/-- A client that is released holds nothing, and the others hold what they did. -/
theorem held_release (store : PooledDatabase) (client : String) :
    (store.release client).held = store.held.filter (·.1 ≠ client) := by
  unfold release heldBy?
  split
  · next absent =>
    have nobody : client ∉ store.held.map Prod.fst := by
      rintro mem
      obtain ⟨entry, held, rfl⟩ := List.mem_map.1 mem
      simpa using List.lookup_eq_none_iff.1 absent entry held
    rw [filter_ne_eq_self nobody]
  · rfl

/-- Clients keep names of their own if one of them is released, and its name is free. -/
theorem names_release (names : (store.held.map Prod.fst).Nodup) (client : String) :
    (((store.release client).held.map Prod.fst).Nodup) ∧
      client ∉ (store.release client).held.map Prod.fst := by
  rw [held_release]
  exact ⟨(List.filter_sublist.map Prod.fst).nodup names, by simp⟩

/-- A client that is released gives its connection back, whatever is lent out besides. -/
theorem reachable_release (client : String) (names : (store.held.map Prod.fst).Nodup)
    (h : Lending.Reachable limit (store.lending (lent + store.held))) :
    Lending.Reachable limit
      ((store.release client).lending (lent + (store.release client).held)) := by
  rw [held_release]
  cases found : store.held.lookup client with
  | none =>
    have same : store.release client = store := by simp only [release, heldBy?, found]
    have unchanged := store.held_release client
    rw [same] at unchanged ⊢
    rw [← unchanged]
    exact h
  | some c =>
    rw [cons_filter_of_lookup names found, Multiset.add_cons] at h
    simp only [release, heldBy?, found]
    exact reachable_takeBack h

/-- Taking a connection back is nothing to what clients hold. -/
theorem held_takeBack (store : PooledDatabase) (c : ConnectionId) :
    (store.takeBack c).held = store.held := rfl

/-- What is lent out is what the clients hold, each under a name of its own. -/
structure Keeps (limit : Nat) (store : PooledDatabase) : Prop where
  reachable : Lending.Reachable limit (store.lending store.held)
  names : (store.held.map Prod.fst).Nodup

/-- A client that is released gives its connection back. -/
theorem Keeps.release (h : store.Keeps limit) (client : String) :
    (store.release client).Keeps limit where
  reachable := by
    have reachable : Lending.Reachable limit (store.lending (0 + store.held)) := by
      rw [Multiset.zero_add]
      exact h.reachable
    have released := reachable_release client h.names reachable
    rwa [Multiset.zero_add] at released
  names := (names_release h.names client).1

/-- A client that acquires a connection has it lent out to it, and then gives back the one that it
held before. -/
theorem Keeps.acquire (h : store.Keeps limit) (client : String) :
    (store.acquire client).2.Keeps limit := by
  have asked := reachable_checkout client h.reachable
  have held := store.held_checkout
  unfold PooledDatabase.acquire
  split
  · next e after same =>
    rw [same] at asked held
    exact ⟨held ▸ asked, held ▸ h.names⟩
  · next c after same =>
    rw [same] at asked held
    have names : (after.held.map Prod.fst).Nodup := held ▸ h.names
    rw [← held, lentAfter, ← Multiset.singleton_add] at asked
    have released := reachable_release client names asked
    rw [Multiset.singleton_add, Multiset.cons_coe] at released
    obtain ⟨others, free⟩ := names_release names client
    exact ⟨released, List.nodup_cons.2 ⟨free, others⟩⟩

/-- A call on the connection that a client holds leaves it there. -/
theorem Keeps.use {α : Type} (h : store.Keeps limit) {client : String} {c : ConnectionId}
    (found : store.heldBy? client = some c) (call : Database → α × Database)
    (used : UsedOn c store.database.inTransaction (call store.database).2.inTransaction) :
    (store.use call).2.Keeps limit := by
  have mem : (client, c) ∈ (store.held : Multiset _) := by
    rw [cons_filter_of_lookup h.names found]
    exact Multiset.mem_cons_self _ _
  exact ⟨reachable_use call mem used h.reachable, h.names⟩

/-! ## From the opening on -/

/-- A script that is run on a connection of its own leaves nothing lent out. -/
theorem reachable_runScript (sql : String) (h : Lending.Reachable limit (store.lending 0)) :
    Lending.Reachable limit ((store.runScript sql).2.lending 0) := by
  have asked := reachable_checkout "" h
  unfold runScript
  split
  · next same =>
    rw [same] at asked
    exact asked
  · next c after same =>
    rw [same, lentAfter] at asked
    have used := after.database.usedOn_batchFrom c (sql.length + 1) sql
    exact reachable_takeBack
      (reachable_use (·.batch c sql) (Multiset.mem_cons_self ("", c) 0) used asked)

/-- Running a script is nothing to what clients hold. -/
theorem held_runScript (store : PooledDatabase) (sql : String) :
    (store.runScript sql).2.held = store.held := by
  have held := store.held_checkout
  unfold runScript
  split
  · next same =>
    rw [same] at held
    exact held
  · next same =>
    rw [same] at held
    exact held

/-- A pooled database that has just been opened has nothing lent out. -/
theorem keeps_of_open? {place : Place} {script : Option (Except QueryError String)}
    (h : open? place limit script = .ok store) : store.Keeps (max limit 1) := by
  unfold open? at h
  simp only [bind_eq_ok] at h
  obtain ⟨c, first, h⟩ := h
  generalize start : PooledDatabase.mk place _ _ _ _ = empty at first h
  have unused : Lending.Reachable (max limit 1) (empty.lending 0) := by
    subst start
    exact .refl
  have opened := reachable_checkout "" unused
  rw [first, lentAfter] at opened
  have nobody : (empty.checkout.2.takeBack c).held = [] := by
    rw [held_takeBack, held_checkout, ← start]
  have ready := reachable_takeBack opened
  generalize empty.checkout.2.takeBack c = prepared at nobody ready h
  cases script with
  | none =>
    obtain rfl : prepared = store := pure_eq_ok.1 h
    exact ⟨by rw [nobody]; exact ready, by simp [nobody]⟩
  | some script =>
    simp only [bind_eq_ok, pure_eq_ok] at h
    obtain ⟨sql, -, -, -, rfl⟩ := h
    have nobody : (prepared.runScript sql).2.held = [] := by rw [held_runScript, nobody]
    exact ⟨by rw [nobody]; exact reachable_runScript sql ready, by simp [nobody]⟩

/-- What a program makes of a pooled database, one call after another. -/
inductive Reached (place : Place) (limit : Nat) (script : Option (Except QueryError String)) :
    PooledDatabase → Prop
  | opened {store : PooledDatabase} :
    open? place limit script = .ok store → Reached place limit script store
  | acquire {store : PooledDatabase} (client : String) :
    Reached place limit script store → Reached place limit script (store.acquire client).2
  | release {store : PooledDatabase} (client : String) :
    Reached place limit script store → Reached place limit script (store.release client)
  | query {store : PooledDatabase} {client : String} {c : ConnectionId} (sql : String)
    (params : List Value) :
    Reached place limit script store → store.heldBy? client = some c →
      Reached place limit script (store.use (·.query c sql params)).2
  | execute {store : PooledDatabase} {client : String} {c : ConnectionId} (sql : String)
    (params : List Value) :
    Reached place limit script store → store.heldBy? client = some c →
      Reached place limit script (store.use (·.execute c sql params)).2
  | batch {store : PooledDatabase} {client : String} {c : ConnectionId} (sql : String) :
    Reached place limit script store → store.heldBy? client = some c →
      Reached place limit script (store.use (·.batch c sql)).2

/-- What a program makes of a pooled database is what clients can make of a pool. -/
theorem Reached.keeps {place : Place} {script : Option (Except QueryError String)}
    (h : Reached place limit script store) : store.Keeps (max limit 1) := by
  induction h with
  | opened opened => exact keeps_of_open? opened
  | acquire client _ ih => exact ih.acquire client
  | release client _ ih => exact ih.release client
  | query sql params _ found ih => exact ih.use found _ (Database.usedOn_callFirst ..)
  | execute sql params _ found ih => exact ih.use found _ (Database.usedOn_callFirst ..)
  | batch sql _ found ih => exact ih.use found _ (Database.usedOn_batchFrom ..)

/-- The open connections of a program are those that are idle and those that its clients hold, and
no more than may be. -/
theorem Reached.openConnections_eq {place : Place} {script : Option (Except QueryError String)}
    (h : Reached place limit script store) :
    store.openConnections = store.pool.idle.length + store.held.length ∧
      store.openConnections ≤ max limit 1 := by
  have counted := h.keeps.reachable.counted
  exact ⟨counted.opened_eq, counted.opened_le⟩

end TypedQuery.PooledDatabase
