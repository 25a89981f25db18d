import TypedQuery.Proofs.Database.Search

/-!
# Terms that match as they are

What a pattern of LIKE matches is given by rules, one for each thing that can stand in it
(`Matches`). The matcher, which tries what a percent sign may stand for one length after another,
decides them (`fits_iff_matches`), here with characters that are the same only if they are equal.

The pattern of a term matches the texts that have the term in them, whatever characters of the term
mean something in a pattern (`matches_containsPattern`): each of them is escaped, and the percent
sign at the end is not, as the escape characters of the term come in pairs. Terms with the same
escaped form are the same, since escaping can be undone (`unescapeLike_escapeLike`).
-/

namespace TypedQuery.Database

open Text (containsPattern escapeLike escapeMark isPatternMark)

/-! ## The rules of patterns -/

/-- A pattern matches a whole text: a percent sign any sequence of characters, an underscore one
character, the escape character with another one that character, and any other character itself. -/
inductive Matches (escape : Char) : List Char → List Char → Prop where
  | done : Matches escape [] []
  | sequence {pattern rest : List Char} (front : List Char) :
    '%' ≠ escape → Matches escape pattern rest → Matches escape ('%' :: pattern) (front ++ rest)
  | single {pattern text : List Char} (c : Char) :
    '_' ≠ escape → Matches escape pattern text → Matches escape ('_' :: pattern) (c :: text)
  | escaped {pattern text : List Char} (c : Char) :
    Matches escape pattern text → Matches escape (escape :: c :: pattern) (c :: text)
  | plain {pattern text : List Char} {c : Char} :
    c ≠ escape → c ≠ '%' → c ≠ '_' → Matches escape pattern text →
      Matches escape (c :: pattern) (c :: text)

section Rules

variable {same : Char → Char → Bool} {escape : Char} {pattern text : List Char}

/-- An underscore fits any character. -/
theorem fits_underscore (plain : '_' ≠ escape) : fits same escape ('_' :: pattern) text = true ↔
    ∃ d rest, text = d :: rest ∧ fits same escape pattern rest = true := by
  rw [fits.eq_def]
  cases text with
  | nil => simp [plain]
  | cons d text => simp [plain]

/-- A text that fits a pattern is matched by the rules. -/
theorem matches_of_fits (fit : fits (fun c d => c = d) escape pattern text = true) :
    Matches escape pattern text := by
  fun_induction fits (fun c d => c = d) escape pattern text with
  | case1 text =>
    obtain rfl : text = [] := by simpa using fit
    exact .done
  | case2 c pattern d text ih =>
    obtain ⟨equal, rest⟩ := Bool.and_eq_true_iff.1 fit
    obtain rfl : c = d := of_decide_eq_true equal
    exact .escaped c (ih rest)
  | case3 => simp at fit
  | case4 pattern text plain ih =>
    -- The percent sign stands for what the matcher leaves out.
    obtain ⟨n, -, rest⟩ := List.any_eq_true.1 fit
    have matched := Matches.sequence (text.take n) plain (ih n rest)
    rwa [List.take_append_drop] at matched
  | case5 mark pattern unescaping percent d text ih =>
    obtain ⟨first, rest⟩ := Bool.and_eq_true_iff.1 fit
    by_cases single : mark = '_'
    · subst single
      exact .single d unescaping (ih rest)
    · obtain rfl : mark = d := by simpa [single] using first
      exact .plain unescaping percent single (ih rest)
  | case6 => simp at fit

/-- The matcher decides the rules. -/
theorem fits_iff_matches :
    fits (fun c d => c = d) escape pattern text = true ↔ Matches escape pattern text := by
  constructor
  · exact matches_of_fits
  · intro rules
    induction rules with
    | done => rfl
    | sequence front plain _ ih => exact (fits_percent plain).2 ⟨front, _, rfl, ih⟩
    | single c plain _ ih => exact (fits_underscore plain).2 ⟨c, _, rfl, ih⟩
    | escaped c _ ih => exact fits_escaped.2 ⟨c, _, rfl, decide_eq_true rfl, ih⟩
    | plain unescaping percent single _ ih =>
      exact (fits_plain unescaping percent single).2 ⟨_, _, rfl, decide_eq_true rfl, ih⟩

instance : Decidable (Matches escape pattern text) :=
  decidable_of_iff _ fits_iff_matches

end Rules

/-! ## Escaping can be undone -/

/-- An escaped term without its escape characters. -/
def unescapeLike : List Char → List Char
  | [] => []
  | c :: rest =>
    if c = escapeMark then
      match rest with
      | d :: more => d :: unescapeLike more
      | [] => []
    else c :: unescapeLike rest

/-- Without its escape characters, an escaped term is the term. -/
theorem unescapeLike_escapeLike (term : List Char) : unescapeLike (escapeLike term) = term := by
  induction term with
  | nil => rfl
  | cons c term ih =>
    by_cases mark : isPatternMark c = true
    · simp [escapeLike, mark, unescapeLike, ih]
    · have other : c ≠ escapeMark := by
        rintro rfl
        exact mark rfl
      cases rest : escapeLike term <;> simp_all [escapeLike, unescapeLike]

/-- The pattern of a term matches the texts in which the characters of the term stand one behind
another, and no two terms have the same escaped form. -/
theorem matches_containsPattern :
    (∀ term text : String,
        Matches escapeMark (containsPattern term).toList text.toList ↔
          term.toList <:+: text.toList) ∧
      Function.Injective escapeLike := by
  refine ⟨fun term text => ?_, Function.LeftInverse.injective unescapeLike_escapeLike⟩
  rw [← fits_iff_matches, escapeMark, fits_containsPattern]
  simp only [decide_eq_true_eq, List.forall₂_eq_eq_eq]
  constructor
  · rintro ⟨before, middle, after, whole, rfl⟩
    exact ⟨before, after, whole.symm⟩
  · rintro ⟨before, after, whole⟩
    exact ⟨before, _, after, whole.symm, rfl⟩

end TypedQuery.Database
