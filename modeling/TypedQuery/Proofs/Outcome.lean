import Mathlib.Data.List.Forall2

/-!
# Steps that may fail

A step returns its result or an error, and a chain of steps succeeds only if each of them does. The
lemmas take the success of a chain apart: which intermediate results there were, and which checks
were passed. A loop of steps keeps what each of its rounds keeps (`foldlM_induction`), and a list
that is mapped by steps is mapped one by one (`forall₂_of_mapM`).
-/

namespace TypedQuery

variable {ε α β : Type}

/-- Two steps in a row succeed if the first does and the second does with its result. -/
theorem bind_eq_ok {x : Except ε α} {f : α → Except ε β} {b : β} :
    x >>= f = .ok b ↔ ∃ a, x = .ok a ∧ f a = .ok b := by
  cases x <;> simp [bind, Except.bind]

/-- Applying a function to a result adds no failure. -/
theorem map_eq_ok {x : Except ε α} {f : α → β} {b : β} :
    f <$> x = .ok b ↔ ∃ a, x = .ok a ∧ f a = b := by
  cases x <;> simp [Functor.map, Except.map]

/-- Changing the error of a step changes nothing where it succeeds. -/
theorem mapError_eq_ok {ε' : Type} {x : Except ε α} {f : ε → ε'} {a : α} :
    x.mapError f = .ok a ↔ x = .ok a := by
  cases x <;> simp [Except.mapError]

/-- The step that only returns a value succeeds with it. -/
theorem pure_eq_ok {a b : α} : (pure a : Except ε α) = .ok b ↔ a = b := by
  simp [pure, Except.pure]

/-- The step that only fails does not succeed. -/
@[simp]
theorem throw_ne_ok {e : ε} {a : α} : (throw e : Except ε α) ≠ .ok a := by
  simp [throw, throwThe, MonadExceptOf.throw]

/-- A step behind a check succeeds if the check finds nothing and the step succeeds. -/
theorem guard_eq_ok {c : Prop} [Decidable c] {e : ε} {f : Unit → Except ε β} {b : β} :
    (if c then (throw e >>= f) else f ()) = .ok b ↔ ¬c ∧ f () = .ok b := by
  split <;> simp_all [bind, Except.bind, throw, throwThe, MonadExceptOf.throw]

/-- What every round of a loop keeps holds at its end. -/
theorem foldlM_induction {f : β → α → Except ε β} {motive : β → Prop} {l : List α}
    (step : ∀ b, ∀ a ∈ l, ∀ b', motive b → f b a = .ok b' → motive b') {b b' : β}
    (start : motive b) (done : l.foldlM f b = .ok b') : motive b' := by
  induction l generalizing b with
  | nil =>
    rw [List.foldlM_nil, pure_eq_ok] at done
    exact done ▸ start
  | cons a l ih =>
    rw [List.foldlM_cons, bind_eq_ok] at done
    obtain ⟨middle, first, rest⟩ := done
    refine ih (fun b a ha => step b a (List.mem_cons_of_mem _ ha)) ?_ rest
    exact step b a List.mem_cons_self middle start first

/-- A list is mapped by steps if each of its elements is. -/
theorem forall₂_of_mapM {f : α → Except ε β} {l : List α} {l' : List β}
    (done : l.mapM f = .ok l') : List.Forall₂ (fun a b => f a = .ok b) l l' := by
  induction l generalizing l' with
  | nil =>
    rw [List.mapM_nil, pure_eq_ok] at done
    exact done ▸ .nil
  | cons a l ih =>
    simp only [List.mapM_cons, bind_eq_ok, pure_eq_ok] at done
    obtain ⟨b, first, rest, others, rfl⟩ := done
    exact .cons first (ih others)

/-- In two related lists every element of the second has a partner in the first. -/
theorem exists_of_forall₂_of_mem {R : α → β → Prop} {l : List α} {l' : List β}
    (pairs : List.Forall₂ R l l') {b : β} (mem : b ∈ l') : ∃ a ∈ l, R a b := by
  induction pairs with
  | nil => simp at mem
  | cons first _ ih =>
    rcases List.mem_cons.1 mem with rfl | mem
    · exact ⟨_, List.mem_cons_self, first⟩
    · obtain ⟨a, listed, related⟩ := ih mem
      exact ⟨a, List.mem_cons_of_mem _ listed, related⟩

end TypedQuery
