import TypedQuery.Proofs.Draft.Run
import TypedQuery.Proofs.Text.Placeholders

/-!
# Predicates that a draft takes

A draft takes a predicate in the store's language if it says something, if no placeholder in it is
numbered or named, and if there is a value for each of its placeholders (`Body.whereRaw_eq_ok`). The
check of the placeholders has a result for every text, and refuses the leftmost one
(`Text.checkStyle_spec`).
-/

namespace TypedQuery

namespace Draft

/-- A predicate is taken if it is not blank, if no placeholder in it is numbered or named, and if
there is a value for each of its question marks. -/
theorem Body.whereRaw_eq_ok {body next : Body} {fragment : String} {params : List Value} :
    body.whereRaw fragment params = .ok next ↔
      Text.isBlankText fragment = false ∧ Text.numberedOrNamed? fragment = none ∧
        Text.placeholderCount fragment = params.length ∧
          body.pushPredicate ⟨fragment, params⟩ = next := by
  unfold whereRaw
  rw [guard_eq_ok, Bool.not_eq_true]
  refine and_congr_right fun _ => ?_
  cases Text.numberedOrNamed? fragment with
  | none =>
    show (if _ then (throw _ >>= fun _ => pure _) else pure _) = _ ↔ _
    rw [guard_eq_ok, pure_eq_ok, not_not]
    simp
  | some found => simp

/-- A predicate that a draft takes is one that its body takes. -/
theorem exists_whereRaw_eq_ok {draft next : Draft} {fragment : String} {params : List Value}
    (done : draft.whereRaw fragment params = .ok next) :
    ∃ body after : Body, body.whereRaw fragment params = .ok after := by
  obtain ⟨body, after, -, result, -⟩ := extend_eq_ok done
  exact ⟨body, after, result⟩

end Draft

namespace Text

/-- The check of placeholders has a result for every text. It lets a text pass just if no numbered
and no named placeholder starts at a character outside of all quotes, and otherwise it names the
leftmost one with the longest word behind its sign. So a predicate that is accepted has a value for
each question mark outside of all quotes, and none of these has a digit behind it. -/
theorem checkStyle_spec (fragment : String) :
    ∃ result, checkStyle fragment = some result ∧
      (result = .ok () ↔
        ∀ before c rest, Outside fragment.toList before c rest → ¬StartsVariable c rest) ∧
      (∀ e, result = .error e ↔ ∃ before sign word rest,
        Leftmost fragment.toList before sign word rest ∧
          e = .invalidPlan (.placeholderStyle (String.ofList (sign :: word)) fragment)) ∧
      ∀ (draft next : Draft) params, draft.whereRaw fragment params = .ok next →
        outsideCount none '?' fragment.toList = params.length ∧
          ∀ before rest, Outside fragment.toList before '?' rest →
            ∀ c ∈ rest.head?, c.isDigit = false := by
  refine ⟨_, checkStyle_eq fragment, ?_, ?_, ?_⟩
  · rw [← numberedOrNamed?_eq_none_iff]
    cases numberedOrNamed? fragment <;> simp
  · intro e
    cases search : numberedOrNamed? fragment with
    | none =>
      refine iff_of_false (by simp) ?_
      rintro ⟨before, sign, word, rest, leftmost, -⟩
      have found := numberedOrNamed?_eq_some_iff.2 ⟨before, sign, word, rest, leftmost, rfl⟩
      rw [search] at found
      simp at found
    | some found =>
      constructor
      · intro refused
        obtain ⟨before, sign, word, rest, leftmost, rfl⟩ := numberedOrNamed?_eq_some_iff.1 search
        exact ⟨before, sign, word, rest, leftmost, (Except.error.inj refused).symm⟩
      · rintro ⟨before, sign, word, rest, leftmost, rfl⟩
        have same := numberedOrNamed?_eq_some_iff.2 ⟨before, sign, word, rest, leftmost, rfl⟩
        rw [search] at same
        rw [Option.some.inj same]
  · intro draft next params done
    obtain ⟨body, after, accepted⟩ := Draft.exists_whereRaw_eq_ok done
    obtain ⟨-, unnamed, counted, -⟩ := Draft.Body.whereRaw_eq_ok.1 accepted
    refine ⟨?_, fun before rest outside c first => ?_⟩
    · rw [← counted, ← countP_unquoted (by decide)]
      rfl
    · by_contra digit
      obtain ⟨more, rfl⟩ := List.head?_eq_some_iff.1 (Option.mem_def.1 first)
      exact numberedOrNamed?_eq_none_iff.1 unnamed before '?' _ outside
        (.numbered (by simpa using digit))

end Text

namespace Office

/-- A draft with a table of notes. -/
def noteDraft : Draft where
  registry := { tables := [{ name := "note", columns := [] }] }
  body := some { source := ⟨"note", none⟩, sourceTable := { name := "note", columns := [] } }

/-- The draft with a condition, in which a literal hides the sign of a name beyond ASCII. -/
def quotedDraft : Draft :=
  { noteDraft with body := noteDraft.body.map (·.pushPredicate ⟨"'@é?' = ?", [.text "x"]⟩) }

/-- A question mark that no quote hides is the only one that needs a value. -/
theorem checkStyle_quotedDraft :
    noteDraft.whereRaw "'@é?' = ?" [.text "x"] = .ok quotedDraft ∧
      Text.Outside "'@é?' = ?".toList "'@é?' = ".toList '?' [] ∧
      Text.checkStyle "'@é?' = ?" = some (.ok ()) ∧
      Text.outsideCount none '?' "'@é?' = ?".toList = 1 := by
  have taken : noteDraft.whereRaw "'@é?' = ?" [.text "x"] = .ok quotedDraft := rfl
  have outside : Text.Outside "'@é?' = ?".toList "'@é?' = ".toList '?' [] := ⟨rfl, rfl, rfl⟩
  obtain ⟨_, -, -, -, accepted⟩ := Text.checkStyle_spec "'@é?' = ?"
  have passed : Text.checkStyle "'@é?' = ?" = some (.ok ()) := by
    rw [Text.checkStyle_eq]
    rfl
  exact ⟨taken, outside, passed, (accepted _ _ _ taken).1⟩

end Office

end TypedQuery
