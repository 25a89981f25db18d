import TypedQuery.Database.Search
import TypedQuery.Proofs.Draft.Conditions
import TypedQuery.Proofs.Sql.Lexing
import TypedQuery.Proofs.Text.LowerCase
import TypedQuery.Schema.TradingCompany

/-!
# What a search finds

A search for a term compares two lower-case forms. The term is put in lower case in full before it
is bound, and the store makes only the ASCII capitals of the texts small. The escaped term between
two percent signs fits the texts that have its characters somewhere
(`Database.fits_containsPattern`), and since no ASCII capital is left on either side, characters are
the same for LIKE only if they are equal. So the texts that are found are those in which the full
form of the term occurs once their ASCII capitals are small (`Draft.finds_of_whereContains`).

Where the two forms agree this is a search that ignores case. Where a text has a capital beyond
ASCII they do not, and the text is not even found by itself.
-/

namespace TypedQuery

namespace Database

open Text (containsPattern escapeLike lowerCase occursIn)

/-! ## Patterns -/

section Patterns

variable {same : Char → Char → Bool} {escape : Char} {pattern text : List Char}

/-- A percent sign fits any front of a text. -/
theorem fits_percent (plain : '%' ≠ escape) : fits same escape ('%' :: pattern) text = true ↔
    ∃ before after, text = before ++ after ∧ fits same escape pattern after = true := by
  rw [fits.eq_def]
  simp only [if_neg plain, if_true, List.any_eq_true, List.mem_range]
  constructor
  · rintro ⟨n, -, rest⟩
    exact ⟨text.take n, text.drop n, (List.take_append_drop n text).symm, rest⟩
  · rintro ⟨before, after, rfl, rest⟩
    exact ⟨before.length, by rw [List.length_append]; omega, by rwa [List.drop_left]⟩

/-- An escaped character fits a character that is the same. -/
theorem fits_escaped {c : Char} : fits same escape (escape :: c :: pattern) text = true ↔
    ∃ d rest, text = d :: rest ∧ same c d = true ∧ fits same escape pattern rest = true := by
  cases text with
  | nil => simp [fits]
  | cons d text => simp [fits]

/-- A character without a meaning fits a character that is the same. -/
theorem fits_plain {c : Char} (unescaping : c ≠ escape) (percent : c ≠ '%') (single : c ≠ '_') :
    fits same escape (c :: pattern) text = true ↔
      ∃ d rest, text = d :: rest ∧ same c d = true ∧ fits same escape pattern rest = true := by
  rw [fits.eq_def]
  cases text with
  | nil => simp [unescaping, percent]
  | cons d text => simp [unescaping, percent, single]

/-- An escaped term fits a front of a text that has the same characters. -/
theorem fits_escapeLike_append {term : List Char} :
    fits same '\\' (escapeLike term ++ pattern) text = true ↔
      ∃ middle after, text = middle ++ after ∧ List.Forall₂ (same · ·) term middle ∧
        fits same '\\' pattern after = true := by
  induction term generalizing text with
  | nil => simp [escapeLike]
  | cons c term ih =>
    -- Escaped or not, the first character of the term takes one of the text.
    have first : fits same '\\' (escapeLike (c :: term) ++ pattern) text = true ↔
        ∃ d rest, text = d :: rest ∧ same c d = true ∧
          fits same '\\' (escapeLike term ++ pattern) rest = true := by
      by_cases mark : Text.isPatternMark c = true
      · rw [escapeLike, if_pos mark]
        exact fits_escaped
      · rw [escapeLike, if_neg mark]
        simp only [Text.isPatternMark, Bool.or_eq_true, decide_eq_true_eq, not_or] at mark
        exact fits_plain mark.1.1 mark.1.2 mark.2
    rw [first]
    constructor
    · rintro ⟨d, rest, rfl, letter, others⟩
      obtain ⟨middle, after, rfl, letters, fitting⟩ := ih.1 others
      exact ⟨d :: middle, after, rfl, .cons letter letters, fitting⟩
    · rintro ⟨middle, after, rfl, letters, fitting⟩
      cases letters with
      | cons letter letters =>
        exact ⟨_, _, rfl, letter, ih.2 ⟨_, after, rfl, letters, fitting⟩⟩

/-- The pattern of a term fits the texts that have the characters of the term somewhere. -/
theorem fits_containsPattern {term : String} :
    fits same '\\' (containsPattern term).toList text = true ↔
      ∃ before middle after, text = before ++ middle ++ after ∧
        List.Forall₂ (same · ·) term.toList middle := by
  have ends {rest : List Char} : fits same '\\' ['%'] rest = true := by
    rw [fits_percent (by decide)]
    exact ⟨rest, [], (List.append_nil rest).symm, rfl⟩
  rw [containsPattern, String.toList_ofList, List.cons_append, fits_percent (by decide)]
  constructor
  · rintro ⟨before, rest, rfl, fitting⟩
    obtain ⟨middle, after, rfl, letters, -⟩ := fits_escapeLike_append.1 fitting
    exact ⟨before, middle, after, (List.append_assoc ..).symm, letters⟩
  · rintro ⟨before, middle, after, rfl, letters⟩
    exact ⟨before, middle ++ after, List.append_assoc ..,
      fits_escapeLike_append.2 ⟨middle, after, rfl, letters, ends⟩⟩

end Patterns

/-! ## Reading searches -/

namespace Search

/-- The word and the bracket in front of a quoted column. -/
theorem lexemes_front (rest : List Char) :
    Sql.lexemes ("LOWER(".toList ++ '"' :: rest) =
      ⟨.word, "LOWER".toList⟩ :: ⟨.mark, ['(']⟩ :: Sql.lexemes ('"' :: rest) := by
  have word : Sql.extent 'L' ("OWER".toList ++ '(' :: '"' :: rest) = (.word, 4) := rfl
  have mark : Sql.extent '(' ([] ++ '"' :: rest) = (.mark, 0) := rfl
  exact (Sql.lexemes_append word).trans (congrArg _ (Sql.lexemes_append mark))

/-- The words and marks behind a column. -/
theorem lexemes_back : Sql.lexemes ") LIKE ? ESCAPE '\\'".toList =
    [⟨.mark, [')']⟩, ⟨.blank, [' ']⟩, ⟨.word, "LIKE".toList⟩, ⟨.blank, [' ']⟩, ⟨.variable, ['?']⟩,
      ⟨.blank, [' ']⟩, ⟨.word, "ESCAPE".toList⟩, ⟨.blank, [' ']⟩, ⟨.text, "'\\'".toList⟩] := by
  decide +kernel

/-- A column is its scope, a point and its name, in front of anything but a double quote. -/
theorem lexemes_column (ref : ColumnRef) {rest : List Char} (ends : Text.EndsName rest) :
    Sql.lexemes (ref.chars ++ rest) = ⟨.name, Text.quotedName ref.scope⟩ :: ⟨.mark, ['.']⟩ ::
      ⟨.name, Text.quotedName ref.column⟩ :: Sql.lexemes rest := by
  have point : Sql.extent '.' ([] ++ (Text.quotedName ref.column ++ rest)) = (.mark, 0) := rfl
  calc Sql.lexemes (ref.chars ++ rest)
    _ = Sql.lexemes (Text.quotedName ref.scope ++ '.' :: (Text.quotedName ref.column ++ rest)) := by
        rw [ColumnRef.chars, List.append_assoc, List.cons_append]
    _ = ⟨.name, Text.quotedName ref.scope⟩ ::
          Sql.lexemes ('.' :: (Text.quotedName ref.column ++ rest)) :=
        Sql.lexemes_quotedName_append _ (by simp [Text.EndsName])
    _ = ⟨.name, Text.quotedName ref.scope⟩ :: ⟨.mark, ['.']⟩ ::
          Sql.lexemes (Text.quotedName ref.column ++ rest) :=
        congrArg _ (Sql.lexemes_append point)
    _ = _ := by rw [Sql.lexemes_quotedName_append _ ends]

/-- The condition that a search adds is read as a search in its column. -/
theorem ofText?_search (ref : ColumnRef) (term : String) :
    ofText? (Predicate.search ref term).text = some ⟨ref.scope, ref.column, '\\'⟩ := by
  have cut : Sql.lexemes (Predicate.search ref term).text.toList =
      ⟨.word, "LOWER".toList⟩ :: ⟨.mark, ['(']⟩ :: ⟨.name, Text.quotedName ref.scope⟩ ::
        ⟨.mark, ['.']⟩ :: ⟨.name, Text.quotedName ref.column⟩ ::
          Sql.lexemes ") LIKE ? ESCAPE '\\'".toList := by
    have ends : Text.EndsName ") LIKE ? ESCAPE '\\'".toList := by simp [Text.EndsName]
    rw [Predicate.toList_text_search, List.append_assoc, ← lexemes_column ref ends]
    exact lexemes_front _
  rw [ofText?, cut, lexemes_back]
  show some (Search.mk (String.ofList (Sql.Lexeme.content ⟨.name, Text.quotedName ref.scope⟩))
    (String.ofList (Sql.Lexeme.content ⟨.name, Text.quotedName ref.column⟩)) '\\') = _
  rw [Sql.content_quotedName, Sql.content_quotedName, String.ofList_toList, String.ofList_toList]

/-! ## What a search finds -/

/-- Among texts without ASCII capitals, LIKE takes only equal characters for the same. -/
theorem forall₂_sameLetter_iff {term middle : List Char} (small : ∀ c ∈ term, c.toLower = c)
    (small' : ∀ d ∈ middle, d.toLower = d) :
    List.Forall₂ (sameLetter · ·) term middle ↔ term = middle := by
  rw [← List.forall₂_eq_eq_eq]
  constructor
  · intro letters
    induction letters with
    | nil => exact .nil
    | @cons c d term middle letter _ ih =>
      rw [List.forall_mem_cons] at small small'
      rw [sameLetter, decide_eq_true_eq, small.1, small'.1] at letter
      exact .cons letter (ih small.2 small'.2)
  · intro equal
    exact equal.imp fun c d same => by simp [sameLetter, same]

/-- A search finds the texts in which the lower-case form of its term occurs once their ASCII
capitals, and only these, are made small. -/
theorem holds_containsPattern (scope column term stored : String) :
    holds ⟨scope, column, '\\'⟩ [.text (containsPattern (lowerCase term))] stored = true ↔
      occursIn (lowerCase term).toList (lowerAscii stored.toList) = true := by
  rw [holds, fits_containsPattern, Text.occursIn_iff]
  have small := (Text.lowerCase_small term).2
  have small' : ∀ d ∈ lowerAscii stored.toList, d.toLower = d := by
    intro d mem
    obtain ⟨c, -, rfl⟩ := List.mem_map.1 mem
    exact Text.toLower_toLower c
  constructor
  · rintro ⟨before, middle, after, whole, letters⟩
    rw [forall₂_sameLetter_iff small fun d mem => small' d (by simp [whole, mem])] at letters
    exact ⟨before, after, letters ▸ whole⟩
  · rintro ⟨before, after, whole⟩
    exact ⟨before, _, after, whole, (forall₂_sameLetter_iff small small).2 rfl⟩

end Search

end Database

open Database Text

/-- The step of a search adds a search for its term. -/
theorem Step.Adds.exists_search {column term : String} {predicate : Predicate}
    (adds : Step.Adds (.whereContains column term) predicate) :
    ∃ ref, predicate = .search ref term := by
  cases adds with
  | search column term ref => exact ⟨ref, rfl⟩

/-- The condition that a search adds is one in the column that the text names. Of the texts in the
column it finds those in which the lower-case form of the term occurs once their ASCII capitals are
made small. Among texts without capitals beyond ASCII these are the ones whose lower-case form has
that of the term in it. A term with such a capital does not find the text that it is. -/
theorem Draft.finds_of_whereContains {draft next : Draft} {column term : String}
    (done : draft.whereContains column term = .ok next) :
    ∃ body ref predicate search, draft.body = some body ∧ body.resolvePlain column = .ok ref ∧
      next.predicates = draft.predicates ++ [predicate] ∧
      Search.ofText? predicate.text = some search ∧
      search.scope = ref.scope ∧ search.column = ref.column ∧
      (∀ stored : String, search.holds predicate.params stored = true ↔
        occursIn (lowerCase term).toList (lowerAscii stored.toList) = true) ∧
      (∀ stored : String, (∀ c ∈ stored.toList, HasAsciiCase c) →
        (search.holds predicate.params stored = true ↔
          occursIn (lowerCase term).toList (lowerCase stored).toList = true)) ∧
      (search.holds predicate.params term = true ↔ ∀ c ∈ term.toList, HasAsciiCase c) := by
  obtain ⟨body, after, found, added, rfl⟩ := extend_eq_ok done
  simp only [Body.whereContains, bind_eq_ok, pure_eq_ok] at added
  obtain ⟨ref, resolved, rfl⟩ := added
  have finds (stored : String) := Search.holds_containsPattern ref.scope ref.column term stored
  refine ⟨body, ref, .search ref term, ⟨ref.scope, ref.column, '\\'⟩, found, resolved, ?_,
    Search.ofText?_search ref term, rfl, rfl, finds, ?_, ?_⟩
  · simp only [predicates, found]
    rfl
  · intro stored ascii
    rw [lowerCase_eq_iff.2 ascii]
    exact finds stored
  · rw [← occursIn_lowerCase_iff]
    exact finds term

/-- A percent sign and a small letter beyond ASCII are found as they are, and the term is not. -/
theorem Draft.finds_percentage : ∃ draft next search predicate,
    (Draft.new TradingCompany.registry).selectFrom "product" = .ok draft ∧
      draft.whereContains "name" "5% É" = .ok next ∧
      next.predicates = draft.predicates ++ [predicate] ∧
      Search.ofText? predicate.text = some search ∧
      search.holds predicate.params "A 5% é" = true ∧
      search.holds predicate.params "A 50 é" = false ∧
      search.holds predicate.params "5% É" = false := by
  obtain ⟨next, both⟩ : ∃ next, ((Draft.new TradingCompany.registry).selectFrom "product" >>=
      fun draft => draft.whereContains "name" "5% É") = .ok next := ⟨_, rfl⟩
  obtain ⟨draft, chosen, done⟩ := bind_eq_ok.1 both
  obtain ⟨-, -, predicate, search, -, -, added, read, -, -, finds, ascii, itself⟩ :=
    Draft.finds_of_whereContains done
  refine ⟨draft, next, search, predicate, chosen, done, added, read, ?_, ?_, ?_⟩
  · have plain : ∀ c ∈ "A 5% é".toList, HasAsciiCase c := by
      rw [← lowerCase_eq_iff]
      decide +kernel
    exact (ascii "A 5% é" plain).2 (by decide +kernel)
  · rw [← Bool.not_eq_true, finds "A 50 é"]
    decide +kernel
  · rw [← Bool.not_eq_true, itself, ← lowerCase_eq_iff]
    decide +kernel

/-- A company whose name starts with a capital with an accent is not found by that capital, although
the name has it, and its lower-case form has the small letter. -/
theorem Plan.not_finds_capital : ∃ plan predicate search,
    Plan.ofSteps TradingCompany.registry
        [.selectFrom "customer", .whereContains "company_name" "É"] = .ok plan ∧
      plan.predicates = [predicate] ∧ Search.ofText? predicate.text = some search ∧
      search.holds predicate.params "École" = false ∧
      occursIn "É".toList "École".toList = true ∧
      occursIn (lowerCase "É").toList (lowerCase "École").toList = true := by
  obtain ⟨plan, built⟩ : ∃ plan, Plan.ofSteps TradingCompany.registry
      [.selectFrom "customer", .whereContains "company_name" "É"] = .ok plan := ⟨_, rfl⟩
  obtain ⟨predicate, others, adds, none, same⟩ :=
    List.forall₂_cons_left_iff.1 (Plan.forall₂_adds_predicates built)
  rw [List.forall₂_nil_left_iff.1 none] at same
  obtain ⟨ref, rfl⟩ := adds.exists_search
  have finds := Search.holds_containsPattern ref.scope ref.column "É" "École"
  have misses : ¬occursIn (lowerCase "É").toList (lowerAscii "École".toList) = true := by
    decide +kernel
  exact ⟨plan, _, _, built, same, Search.ofText?_search ref "É",
    Bool.eq_false_iff.2 (mt finds.1 misses), rfl, by decide +kernel⟩

end TypedQuery
