import Mathlib.Data.Multiset.AddSub
import Mathlib.Data.Multiset.ZeroCons
import Mathlib.Logic.Function.Basic
import Mathlib.Logic.Relation
import TypedQuery.Database.Pool

/-!
# A pool between the steps of its clients

Clients use a pool at the same time, and none of them keeps it for long: a client asks for a
connection, opens one if it was given a place for it and gives the place up if that fails, uses what
it holds, and drops it. A `Lending` is a pool between two such steps, together with what its clients
hold and open. A step is one of one client; which client, is not for the pool to say, so a run is
any interleaving of the steps of any number of clients. A client may hold several connections.

A connection that is dropped in a transaction counts as closed from then on, though closing it takes
another step. Of the database only this much is said: a new connection is outside of a transaction,
and from then on it is in one from a successful begin to a successful commit or rollback
(`Use.after`).

Asking for a connection may end in three ways and dropping one in two (`Lending.ask_cases`,
`Lending.drop_of_outside`, `Lending.drop_of_inside`), so there are nine things that a step can do.
-/

namespace TypedQuery.Database

/-- What a client does with a connection. -/
inductive Use where
  | begin
  | commit
  | rollback
  /-- What neither begins nor ends a transaction. -/
  | other

/-- Whether a connection is in a transaction after a use of it. What fails changes nothing. -/
def Use.after (use : Use) (succeeded before : Bool) : Bool :=
  match use with
  | .begin => succeeded || before
  | .commit | .rollback => !succeeded && before
  | .other => before

/-- A pool and what its clients have of it. -/
structure Lending where
  pool : Pool
  /-- The clients that open a connection, each as often as it has a place for one. -/
  opening : Multiset String := 0
  /-- The connections that clients hold. -/
  lent : Multiset (String × ConnectionId) := 0
  /-- The connections that were dropped in a transaction and are not closed yet. -/
  closing : Multiset ConnectionId := 0
  /-- The number of connections opened so far. -/
  issued : Nat := 0
  inTransaction : ConnectionId → Bool := fun _ => false

namespace Lending

variable {s : Lending}

/-! ## Steps -/

/-- A client asks for a connection. -/
def ask (s : Lending) (client : String) : Lending :=
  match s.pool.checkout with
  | (.idle c, pool) => { s with pool, lent := (client, c) ::ₘ s.lent }
  | (.reserved, pool) => { s with pool, opening := client ::ₘ s.opening }
  | (.exhausted, pool) => { s with pool }

/-- A client has opened a connection. -/
def connect (s : Lending) (client : String) : Lending :=
  let c := s.issued + 1
  { s with
    opening := s.opening.erase client
    lent := (client, c) ::ₘ s.lent
    issued := c
    inTransaction := Function.update s.inTransaction c false }

/-- A client could not open a connection. -/
def giveUp (s : Lending) (client : String) : Lending :=
  { s with opening := s.opening.erase client, pool := s.pool.giveUp }

/-- A connection is used. -/
def use (s : Lending) (c : ConnectionId) (use : Use) (succeeded : Bool) : Lending :=
  let after := use.after succeeded (s.inTransaction c)
  { s with inTransaction := Function.update s.inTransaction c after }

/-- A client drops a connection. -/
def drop (s : Lending) (client : String) (c : ConnectionId) : Lending :=
  { s with
    pool := s.pool.takeBack c (s.inTransaction c)
    lent := s.lent.erase (client, c)
    closing := if s.inTransaction c then c ::ₘ s.closing else s.closing }

/-- A connection that was dropped in a transaction is closed. -/
def close (s : Lending) (c : ConnectionId) : Lending :=
  { s with
    closing := s.closing.erase c
    inTransaction := Function.update s.inTransaction c false }

/-- One step of one client. -/
inductive Step : Lending → Lending → Prop
  | ask {s : Lending} (client : String) : Step s (s.ask client)
  | connect {s : Lending} {client : String} : client ∈ s.opening → Step s (s.connect client)
  | giveUp {s : Lending} {client : String} : client ∈ s.opening → Step s (s.giveUp client)
  | use {s : Lending} {client : String} {c : ConnectionId} (use : Use) (succeeded : Bool) :
    (client, c) ∈ s.lent → Step s (s.use c use succeeded)
  | drop {s : Lending} {client : String} {c : ConnectionId} :
    (client, c) ∈ s.lent → Step s (s.drop client c)
  | close {s : Lending} {c : ConnectionId} : c ∈ s.closing → Step s (s.close c)

/-- Any number of steps of any clients. -/
abbrev Run : Lending → Lending → Prop := Relation.ReflTransGen Step

/-- A pool that nobody has used yet. -/
def fresh (limit : Nat) : Lending := { pool := { limit } }

/-- What clients can make of a pool. Whoever sets it up is a client too: a first connection that is
opened ahead of all others is asked for, opened and dropped. -/
def Reachable (limit : Nat) (s : Lending) : Prop := Run (fresh limit) s

/-- Who asks gets an idle connection, or else a place if there is one, or else nothing. -/
theorem ask_cases (s : Lending) (client : String) :
    (∃ c rest, s.pool.idle = c :: rest ∧ s.ask client =
      { s with pool := { s.pool with idle := rest }, lent := (client, c) ::ₘ s.lent }) ∨
    (s.pool.idle = [] ∧ s.pool.opened < s.pool.limit ∧ s.ask client =
      { s with
        pool := { s.pool with opened := s.pool.opened + 1 }
        opening := client ::ₘ s.opening }) ∨
    (s.pool.idle = [] ∧ s.pool.limit ≤ s.pool.opened ∧ s.ask client = s) := by
  obtain ⟨c, rest, idle, asked⟩ | ⟨idle, room, asked⟩ | ⟨idle, full, asked⟩ := s.pool.checkout_cases
  · exact .inl ⟨c, rest, idle, by simp only [ask, asked]⟩
  · exact .inr (.inl ⟨idle, room, by simp only [ask, asked]⟩)
  · exact .inr (.inr ⟨idle, full, by simp only [ask, asked]⟩)

/-- A connection that is dropped outside of a transaction is idle. -/
theorem drop_of_outside {client : String} {c : ConnectionId} (outside : s.inTransaction c = false) :
    s.drop client c =
      { s with
        pool := { s.pool with idle := c :: s.pool.idle }
        lent := s.lent.erase (client, c) } := by
  simp [drop, Pool.takeBack, outside]

/-- A connection that is dropped in a transaction is not, and its place is free. -/
theorem drop_of_inside {client : String} {c : ConnectionId} (inside : s.inTransaction c = true) :
    s.drop client c =
      { s with
        pool := s.pool.giveUp
        lent := s.lent.erase (client, c)
        closing := c ::ₘ s.closing } := by
  simp [drop, Pool.takeBack, inside]

end Lending

end TypedQuery.Database
