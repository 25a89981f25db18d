import Mathlib.Data.List.Forall2
import TypedQuery.Text.Quoting

/-!
# Legible ways of writing

Things written one after another can be read again if each of them can be told from what is behind
it. `Legible` says so of one way of writing: from two equal texts, each a thing and what is behind
it, the two things are the same and what is behind them is too. Reading may need to know how the
text goes on, and it may show less than the whole thing.

A quoted name is legible in front of anything but a double quote (`legible_quotedName`), and a list
is, if its members are and what is behind it cannot be taken for one more (`Legible.flatMap`).
-/

namespace TypedQuery.Text

/-- From a text that goes on with what has the property `ends`, one can tell what was written in
front, of the things that are `valid`, as far as `key` shows it. -/
def Legible {α κ : Type} (valid : α → Prop) (write : α → List Char) (key : α → κ)
    (ends : List Char → Prop) : Prop :=
  ∀ ⦃a b : α⦄ ⦃r s : List Char⦄, valid a → valid b → ends r → ends s →
    write a ++ r = write b ++ s → key a = key b ∧ r = s

/-- A text that does not start with a double quote. -/
def EndsName (rest : List Char) : Prop :=
  rest.head? ≠ some '"'

/-- The quotes of a name end at the first double quote that no other follows. -/
theorem doubleQuotes_append_inj {a b r s : List Char} (hr : EndsName r) (hs : EndsName s)
    (same : doubleQuotes a ++ '"' :: r = doubleQuotes b ++ '"' :: s) : a = b ∧ r = s := by
  -- A name that goes on where the other ends would have its next mark doubled in what follows.
  have goesOn {c : Char} {b r s : List Char} (hr : EndsName r)
      (same : '"' :: r = doubleQuotes (c :: b) ++ '"' :: s) : False := by
    by_cases mark : c = '"'
    · simp only [doubleQuotes, mark, if_true, List.cons_append, List.cons.injEq, true_and] at same
      exact hr (by rw [same]; rfl)
    · simp only [doubleQuotes, mark, if_false, List.cons_append, List.cons.injEq] at same
      exact mark same.1.symm
  induction a generalizing b with
  | nil =>
    cases b with
    | nil => exact ⟨rfl, (List.cons.inj same).2⟩
    | cons d b => exact (goesOn hr same).elim
  | cons c a ih =>
    cases b with
    | nil => exact (goesOn hs same.symm).elim
    | cons d b =>
      have first : c = d ∧ doubleQuotes a ++ '"' :: r = doubleQuotes b ++ '"' :: s := by
        by_cases hc : c = '"' <;> by_cases hd : d = '"' <;>
          simp_all [doubleQuotes, eq_comm]
      obtain ⟨rfl, rest⟩ := ih first.2
      exact ⟨by rw [first.1], rest⟩

/-- A quoted name is legible in front of anything but a double quote. -/
theorem legible_quotedName : Legible (fun _ => True) quotedName id EndsName := by
  intro a b r s _ _ hr hs same
  simp only [quotedName, List.cons_append, List.append_assoc, List.nil_append, List.cons.injEq,
    true_and] at same
  obtain ⟨names, rest⟩ := doubleQuotes_append_inj hr hs same
  exact ⟨String.toList_inj.1 names, rest⟩

/-- A list of things, and what is behind it, starts as one of them does or what is behind it. -/
theorem ends_flatMap_append {α : Type} {write : α → List Char} {ends : List Char → Prop}
    (next : ∀ a r, ends (write a ++ r)) (items : List α) {r : List Char} (hr : ends r) :
    ends (items.flatMap write ++ r) := by
  cases items with
  | nil => exact hr
  | cons a items =>
    rw [List.flatMap_cons, List.append_assoc]
    exact next a _

/-- Things written one after another are legible, if each of them is in front of another and what is
behind the last does not start like one. -/
theorem Legible.flatMap {α κ : Type} {valid : α → Prop} {write : α → List Char} {key : α → κ}
    {ends : List Char → Prop} (item : Legible valid write key ends)
    (next : ∀ a r, ends (write a ++ r)) :
    Legible (fun items : List α => ∀ a ∈ items, valid a) (fun items => items.flatMap write)
      (List.map key) (fun r => ends r ∧ ∀ a t, r ≠ write a ++ t) := by
  intro items others r s validItems validOthers hr hs same
  change items.flatMap write ++ r = others.flatMap write ++ s at same
  induction items generalizing others with
  | nil =>
    cases others with
    | nil => exact ⟨rfl, same⟩
    | cons b others =>
      rw [List.flatMap_cons, List.append_assoc] at same
      exact absurd same (hr.2 b _)
  | cons a items ih =>
    cases others with
    | nil =>
      rw [List.flatMap_cons, List.append_assoc] at same
      exact absurd same.symm (hs.2 a _)
    | cons b others =>
      obtain ⟨validFirst, validRest⟩ := List.forall_mem_cons.1 validItems
      obtain ⟨validFirst', validRest'⟩ := List.forall_mem_cons.1 validOthers
      rw [List.flatMap_cons, List.flatMap_cons, List.append_assoc, List.append_assoc] at same
      obtain ⟨first, same⟩ := item validFirst validFirst' (ends_flatMap_append next items hr.1)
        (ends_flatMap_append next others hs.1) same
      obtain ⟨rest, behind⟩ := ih validRest validRest' same
      exact ⟨by rw [List.map_cons, List.map_cons, first, rest], behind⟩

end TypedQuery.Text
