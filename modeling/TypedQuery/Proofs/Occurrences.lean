import Mathlib.Data.List.Induction
import Mathlib.Data.List.Nodup

/-!
# First and last occurrences

A list without its repetitions (`List.eraseDups`) has each element once, in the order in which the
elements first come up in the list (`pairwise_idxOf_eraseDups`). One element more comes last, unless
it has come up before (`eraseDups_append_singleton`), which is how a table with an entry for each
name grows. What is found in a reversed list is what comes up last in the list
(`find?_reverse_eq_some_iff`).
-/

namespace TypedQuery

section FirstOccurrences

variable {α : Type} [BEq α] [LawfulBEq α]

/-- One element more comes last, unless it has come up before. -/
theorem eraseDups_append_singleton (list : List α) (a : α) [Decidable (a ∈ list)] :
    (list ++ [a]).eraseDups = if a ∈ list then list.eraseDups else list.eraseDups ++ [a] := by
  rw [List.eraseDups_append]
  split
  · next old => simp [List.removeAll, old]
  · next new => simp [List.removeAll, new, List.eraseDups_cons]

/-- Each element is kept once. -/
theorem nodup_eraseDups (list : List α) : list.eraseDups.Nodup := by
  classical
  induction list using List.reverseRecOn with
  | nil => exact .nil
  | append_singleton list a ih =>
    rw [eraseDups_append_singleton]
    split
    · exact ih
    · next new =>
      refine List.nodup_append'.2 ⟨ih, List.nodup_singleton a, ?_⟩
      rw [List.disjoint_singleton, List.mem_eraseDups]
      exact new

/-- The elements are kept in the order of their first occurrences. -/
theorem pairwise_idxOf_eraseDups (list : List α) :
    list.eraseDups.Pairwise fun a b => list.idxOf a < list.idxOf b := by
  classical
  induction list using List.reverseRecOn with
  | nil => exact .nil
  | append_singleton list a ih =>
    -- An element behind the list does not change where those of the list come up.
    have front : list.eraseDups.Pairwise fun b c =>
        (list ++ [a]).idxOf b < (list ++ [a]).idxOf c := by
      refine ih.imp_of_mem fun {b c} first second earlier => ?_
      rw [List.idxOf_append_of_mem (List.mem_eraseDups.1 first),
        List.idxOf_append_of_mem (List.mem_eraseDups.1 second)]
      exact earlier
    rw [eraseDups_append_singleton]
    split
    · exact front
    · next new =>
      refine List.pairwise_append.2 ⟨front, List.pairwise_singleton _ a, fun b old c last => ?_⟩
      have mem : b ∈ list := List.mem_eraseDups.1 old
      rw [List.mem_singleton.1 last, List.idxOf_append_of_mem mem, List.idxOf_append_of_notMem new]
      have inside := List.idxOf_lt_length_iff.2 mem
      omega

end FirstOccurrences

/-- What is found first in a reversed list is the element at the last position with the
property. -/
theorem find?_reverse_eq_some_iff {α : Type} {p : α → Bool} {l : List α} {a : α} :
    l.reverse.find? p = some a ↔
      ∃ k : Nat, l[k]? = some a ∧ p a = true ∧ ∀ j, k < j → ∀ b, l[j]? = some b → p b = false := by
  rw [List.find?_eq_some_iff_append]
  constructor
  · rintro ⟨has, later, earlier, parts, without⟩
    have shape : l = earlier.reverse ++ a :: later.reverse := by
      rw [← List.reverse_reverse l, parts]
      simp
    refine ⟨earlier.reverse.length, by simp [shape], has, fun j after b found => ?_⟩
    obtain ⟨i, rfl⟩ : ∃ i, j = earlier.reverse.length + (i + 1) :=
      ⟨j - earlier.reverse.length - 1, by omega⟩
    rw [shape, List.getElem?_append_right (by omega), Nat.add_sub_cancel_left,
      List.getElem?_cons_succ] at found
    simpa using without b (List.mem_reverse.1 (List.mem_of_getElem? found))
  · rintro ⟨k, at_k, has, last⟩
    obtain ⟨inside, rfl⟩ := List.getElem?_eq_some_iff.1 at_k
    refine ⟨has, (l.drop (k + 1)).reverse, (l.take k).reverse, ?_, ?_⟩
    · have parts : l = l.take k ++ l[k] :: l.drop (k + 1) := by
        rw [← List.drop_eq_getElem_cons inside, List.take_append_drop]
      calc l.reverse = (l.take k ++ l[k] :: l.drop (k + 1)).reverse := by rw [← parts]
        _ = (l.drop (k + 1)).reverse ++ l[k] :: (l.take k).reverse := by simp
    · intro b mem
      obtain ⟨i, found⟩ := List.mem_iff_getElem?.1 (List.mem_reverse.1 mem)
      rw [List.getElem?_drop] at found
      rw [last (k + 1 + i) (by omega) b found, Bool.not_false]

end TypedQuery
