/-!
# Texts inside of texts
-/

namespace TypedQuery.Text

/-- Whether a text stands somewhere in another. -/
def occursIn (text : List Char) : List Char → Bool
  | [] => text.isEmpty
  | c :: rest => text.isPrefixOf (c :: rest) || occursIn text rest

/-- A text occurs in another exactly if the other is it with something before and after. -/
theorem occursIn_iff {text whole : List Char} :
    occursIn text whole = true ↔ ∃ before after, whole = before ++ text ++ after := by
  induction whole with
  | nil => simp [occursIn]
  | cons c rest ih =>
    simp only [occursIn, Bool.or_eq_true, List.isPrefixOf_iff_prefix, ih]
    constructor
    · rintro (⟨after, h⟩ | ⟨before, after, h⟩)
      · exact ⟨[], after, by simp [h]⟩
      · exact ⟨c :: before, after, by simp [h]⟩
    · rintro ⟨before, after, h⟩
      cases before with
      | nil => exact .inl ⟨after, by simpa using h.symm⟩
      | cons b before =>
        simp only [List.cons_append, List.cons.injEq] at h
        exact .inr ⟨before, after, by simpa using h.2⟩

end TypedQuery.Text
