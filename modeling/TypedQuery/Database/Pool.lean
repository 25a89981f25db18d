import TypedQuery.Store.Basic

/-!
# The pool

A pool lends out connections and takes them back. It opens a connection only if none is idle, and no
more than its limit. Opening takes time in which others use the pool, so it is done in two steps: a
place is reserved, and later the connection is there, or it could not be opened and the place is
given up. `opened` counts the connections that are idle or lent and the places that are reserved.

A connection comes back idle if it is outside of a transaction. One that is inside of one is
discarded, because closing it is what undoes its changes.
-/

namespace TypedQuery.Database

/-- A pool. -/
structure Pool where
  /-- How many connections may be open at a time. -/
  limit : Nat
  /-- The connections that nobody uses, the one that came back last in front. -/
  idle : List ConnectionId := []
  opened : Nat := 0

/-- The answer to who asks for a connection. -/
inductive Checkout where
  | idle (connection : ConnectionId)
  /-- A connection may be opened. -/
  | reserved
  /-- As many connections are in use as may be open. -/
  | exhausted

namespace Pool

/-- Asks for a connection: an idle one, or else a place for a new one. -/
def checkout (pool : Pool) : Checkout × Pool :=
  match pool.idle with
  | c :: rest => (.idle c, { pool with idle := rest })
  | [] =>
    if pool.limit ≤ pool.opened then (.exhausted, pool)
    else (.reserved, { pool with opened := pool.opened + 1 })

/-- Gives up a place, because the connection for it could not be opened or has been closed. -/
def giveUp (pool : Pool) : Pool := { pool with opened := pool.opened - 1 }

/-- Takes a connection back. -/
def takeBack (pool : Pool) (c : ConnectionId) (inTransaction : Bool) : Pool :=
  if inTransaction then pool.giveUp else { pool with idle := c :: pool.idle }

/-- A pool answers with an idle connection, or else a place if there is one, or else a refusal that
leaves it as it was. -/
theorem checkout_cases (pool : Pool) :
    (∃ c rest, pool.idle = c :: rest ∧
      pool.checkout = (.idle c, { pool with idle := rest })) ∨
    (pool.idle = [] ∧ pool.opened < pool.limit ∧
      pool.checkout = (.reserved, { pool with opened := pool.opened + 1 })) ∨
    (pool.idle = [] ∧ pool.limit ≤ pool.opened ∧ pool.checkout = (.exhausted, pool)) := by
  cases idle : pool.idle with
  | cons c rest => exact .inl ⟨c, rest, rfl, by simp only [checkout, idle]⟩
  | nil =>
    by_cases full : pool.limit ≤ pool.opened
    · exact .inr (.inr ⟨rfl, full, by simp only [checkout, idle, if_pos full]⟩)
    · exact .inr (.inl ⟨rfl, Nat.lt_of_not_le full, by simp only [checkout, idle, if_neg full]⟩)

/-- A pool is exhausted exactly if nothing is idle and the limit is reached. -/
theorem checkout_eq_exhausted_iff {pool : Pool} :
    pool.checkout = (.exhausted, pool) ↔ pool.idle = [] ∧ pool.limit ≤ pool.opened := by
  obtain ⟨c, rest, idle, asked⟩ | ⟨idle, room, asked⟩ | ⟨idle, full, asked⟩ := pool.checkout_cases
  · simp [asked, idle]
  · simp [asked, Nat.not_le.2 room]
  · simp [asked, idle, full]

end Pool

end TypedQuery.Database
