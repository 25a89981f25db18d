import TypedQuery.Database.Pooled

/-!
# Who asks a pool for a connection

A database turns the answer of its pool into a connection or an error. The error of an exhausted
pool can be told from every other by its wording alone, so a caller that reads it knows that the
pool is exhausted (`PooledDatabase.refuses_iff`).
-/

namespace TypedQuery

namespace PooledDatabase

open Database

/-- The wording of the error of an exhausted pool. -/
def allInUse (limit : Nat) : String := s!"Store unavailable: all {limit} connections are in use"

/-- Whether who asks for a connection is told that all are in use. -/
def Refuses (store : PooledDatabase) (limit : Nat) : Prop :=
  ∃ e, store.checkout.1 = .error e ∧ e.message = allInUse limit

/-- A connection that cannot be opened is reported in other words. -/
theorem message_connect_ne {store : PooledDatabase} {e : QueryError} (limit : Nat)
    (h : store.connect.1 = .error e) : e.message ≠ allInUse limit := by
  have other : e.message = "Store unavailable: unable to open database file" ∨
      e.message = "Store unavailable: database schema is locked: main" := by
    unfold connect at h
    dsimp only at h
    split at h
    · cases h
      exact .inl rfl
    all_goals
      unfold checkDefinitions at h
      split at h
      · next failed =>
        split at failed
        · obtain rfl := Except.error.inj failed
          cases h
          exact .inr rfl
        · cases failed
      · cases h
  -- The words part at the letter that follows the kind of the error.
  intro same
  unfold allInUse at same
  have letter := congrArg (fun text => text.toList[19]?) same
  obtain other | other := other
  · rw [other] at letter
    simp [String.toList_append, toString] at letter
  · rw [other] at letter
    simp [String.toList_append, toString] at letter

/-- A database behind an exhausted pool refuses, and is left as it was. -/
theorem checkout_of_exhausted {store : PooledDatabase}
    (h : store.pool.checkout = (.exhausted, store.pool)) :
    store.checkout = (.error (.storeUnavailable (.exhausted store.pool.limit)), store) := by
  simp only [checkout, h]

/-- Who asks is told that all connections are in use exactly if the pool is exhausted. -/
theorem refuses_iff {store : PooledDatabase} :
    store.Refuses store.pool.limit ↔ store.pool.checkout = (.exhausted, store.pool) := by
  obtain ⟨c, rest, -, asked⟩ | ⟨-, -, asked⟩ | ⟨-, -, asked⟩ := store.pool.checkout_cases
  · have answer : store.checkout.1 = .ok c := by simp only [checkout, asked]
    simp [Refuses, answer, asked]
  · have answer : store.checkout.1 = (connect { store with
        pool := { store.pool with opened := store.pool.opened + 1 } }).1 := by
      simp only [checkout, asked]
    refine iff_of_false (fun ⟨e, failed, words⟩ => ?_) (by simp [asked])
    exact message_connect_ne _ (answer ▸ failed) words
  · exact iff_of_true ⟨_, congrArg Prod.fst (checkout_of_exhausted asked), rfl⟩ asked

end PooledDatabase

end TypedQuery
