import TypedQuery.Proofs.Text.Legible
import TypedQuery.Sql.Lexeme

/-!
# Lexemes one after another

A text is cut from its front: a lexeme takes the characters that its extent says, and the rest is
cut in the same way (`Sql.lexemes_append`). A quoted name is one lexeme, whose content is the name,
in front of anything but a double quote (`Sql.lexemes_quotedName_append`), since between its quotes
every double quote is doubled. Digits are one lexeme in front of a blank or of the end of the text
(`Sql.lexemes_digits_append`), and a word behind a blank is one in front of another blank
(`Sql.lexemes_word_append`).
-/

namespace TypedQuery.Sql

open Text (doubleQuotes quotedName EndsName)

/-- An empty text has no lexemes. -/
@[simp]
theorem lexemes_nil : lexemes [] = [] := by
  rw [lexemes]

/-- The text of an extent is a lexeme, and what is behind it is cut on. -/
theorem lexemes_append {c : Char} {own rest : List Char} {kind : LexemeKind}
    (taken : extent c (own ++ rest) = (kind, own.length)) :
    lexemes (c :: own ++ rest) = ⟨kind, c :: own⟩ :: lexemes rest := by
  rw [List.cons_append, lexemes, taken]
  simp only [List.take_left, List.drop_left]

/-- A character that is no mark is inside of the quote. -/
theorem quoteLength?_cons_of_ne {mark c : Char} (ne : c ≠ mark) (rest : List Char) :
    quoteLength? mark (c :: rest) = (quoteLength? mark rest).map (· + 1) := by
  cases rest <;> simp [quoteLength?, ne]

/-- The quote of a name ends behind the doubled quotes of the name. -/
theorem quoteLength?_doubleQuotes (name : List Char) {rest : List Char} (ends : EndsName rest) :
    quoteLength? '"' (doubleQuotes name ++ '"' :: rest) =
      some ((doubleQuotes name).length + 1) := by
  induction name with
  | nil =>
    cases rest with
    | nil => rfl
    | cons d rest =>
      have other : d ≠ '"' := fun same => ends (same ▸ rfl)
      simp [doubleQuotes, quoteLength?, other]
  | cons c name ih =>
    by_cases mark : c = '"'
    · simp [doubleQuotes, mark, quoteLength?, ih]
    · simp [doubleQuotes, mark, quoteLength?_cons_of_ne mark, ih]

/-- A quoted name in front of anything but a double quote is one lexeme. -/
theorem lexemes_quotedName_append (name : String) {rest : List Char} (ends : EndsName rest) :
    lexemes (quotedName name ++ rest) = ⟨.name, quotedName name⟩ :: lexemes rest := by
  have taken : extent '"' (doubleQuotes name.toList ++ ['"'] ++ rest) =
      (.name, (doubleQuotes name.toList ++ ['"']).length) := by
    rw [List.append_assoc, List.singleton_append, List.length_append, List.length_singleton]
    simp only [extent, quoteLength?_doubleQuotes name.toList ends]
    rfl
  exact lexemes_append taken

/-- A character that is no mark is read as it is. -/
theorem unquote_cons_of_ne {mark c : Char} (ne : c ≠ mark) (rest : List Char) :
    unquote mark (c :: rest) = c :: unquote mark rest := by
  cases rest <;> simp [unquote, ne]

/-- Doubled quotes are read back up to the quote that ends the name. -/
theorem unquote_doubleQuotes (name : List Char) :
    unquote '"' (doubleQuotes name ++ ['"']) = name := by
  induction name with
  | nil => rfl
  | cons c name ih =>
    by_cases mark : c = '"'
    · simp [doubleQuotes, mark, unquote, ih]
    · simp [doubleQuotes, mark, unquote_cons_of_ne mark, ih]

/-- A quoted name says the name. -/
theorem content_quotedName (name : String) :
    Lexeme.content ⟨.name, quotedName name⟩ = name.toList := by
  rw [← unquote_doubleQuotes name.toList]
  rfl

/-! ## Numbers -/

/-- A run of a class is empty if the text does not start with a character of it. -/
theorem run_eq_zero {p : Char → Bool} {text : List Char} (none : ∀ c ∈ text.head?, p c = false) :
    run p text = 0 := by
  cases text with
  | nil => rfl
  | cons c text => simp [run, none c rfl]

/-- A blank goes on with no number and no name. -/
theorem stops_of_isBlank {c : Char} (blank : isBlank c = true) :
    isNumeric c = false ∧ isNameChar c = false ∧ c ∉ ['.', 'e', 'E', 'x', 'X'] := by
  simp only [isBlank, Bool.or_eq_true, decide_eq_true_eq] at blank
  rcases blank with (((rfl | rfl) | rfl) | rfl) | rfl <;> decide

/-- What starts with a digit is a number, unless a name goes on behind it. -/
theorem extent_digit {c : Char} (digit : c.isDigit = true) (rest : List Char) :
    extent c rest =
      (if run isNameChar (rest.drop (numberLength (c :: rest) - 1)) = 0 then
        (.number, numberLength (c :: rest) - 1)
      else (.bad, numberLength (c :: rest) - 1 +
        run isNameChar (rest.drop (numberLength (c :: rest) - 1)))) := by
  have other (d : Char) (no : d.isDigit = false) : c ≠ d := by
    rintro rfl
    simp [digit] at no
  simp [extent, digit, isBlank, other ' ' (by decide), other '\t' (by decide),
    other '\n' (by decide), other '\x0c' (by decide), other '\r' (by decide),
    other '\ufeff' (by decide), other '-' (by decide), other '/' (by decide),
    other '\'' (by decide), other '"' (by decide), other '\x60' (by decide),
    other '[' (by decide), other 'x' (by decide), other 'X' (by decide)]

section Digits

variable {digits rest : List Char} (all : ∀ c ∈ digits, c.isDigit = true)
  (blank : ∀ c ∈ rest.head?, isBlank c = true)

include all blank

/-- Digits in front of a blank or of the end are the whole of a decimal number. -/
theorem decimalLength_digits : decimalLength (digits ++ rest) = digits.length := by
  have whole : run isNumeric (digits ++ rest) = digits.length := by
    have stops := run_eq_zero fun c mem => (stops_of_isBlank (blank c mem)).1
    have numeric : ∀ c ∈ digits, isNumeric c = true := fun c mem => by simp [isNumeric, all c mem]
    simpa [run, List.takeWhile_append_of_pos numeric] using stops
  have behind : rest = [] ∨ ∃ c more, rest = c :: more ∧ c ∉ ['.', 'e', 'E', 'x', 'X'] := by
    cases rest with
    | nil => exact .inl rfl
    | cons c more => exact .inr ⟨c, more, rfl, (stops_of_isBlank (blank c rfl)).2.2⟩
  simp only [decimalLength, whole, List.drop_left]
  rcases behind with rfl | ⟨c, more, rfl, other⟩
  · simp [exponentLength]
  · simp only [List.mem_cons, List.not_mem_nil, or_false, not_or] at other
    obtain ⟨point, small, capital, -⟩ := other
    split
    · next same => simp [point] at same
    · simp [exponentLength, small, capital]

/-- No digit and no blank makes a number hexadecimal. -/
theorem numberLength_digits : numberLength (digits ++ rest) = digits.length := by
  unfold numberLength
  split
  -- A number that starts with a zero is hexadecimal if an x follows.
  · next x more same =>
    have second : x.isDigit = true ∨ isBlank x = true := by
      rcases digits with _ | ⟨c, _ | ⟨d, own⟩⟩
      · have zero := blank '0' (by simp_all)
        simp [isBlank] at zero
      · exact .inr (blank x (by simp_all))
      · exact .inl (all x (by simp_all))
    have other : x ≠ 'x' ∧ x ≠ 'X' := by
      constructor <;> rintro rfl <;> simp [isBlank] at second
    simp only [other, or_self, false_and, if_false]
    exact decimalLength_digits all blank
  · exact decimalLength_digits all blank

/-- Digits in front of a blank or of the end are one lexeme. -/
theorem lexemes_digits_append (some : digits ≠ []) :
    lexemes (digits ++ rest) = ⟨.number, digits⟩ :: lexemes rest := by
  obtain ⟨c, own, rfl⟩ := List.exists_cons_of_ne_nil some
  refine lexemes_append ?_
  have length := numberLength_digits all blank
  rw [List.cons_append] at length
  have stops := run_eq_zero fun c mem => (stops_of_isBlank (blank c mem)).2.1
  rw [extent_digit (all c (by simp)), length]
  simp [stops]

end Digits

/-! ## Words -/

/-- A blank in front of anything but a blank is one lexeme. -/
theorem lexemes_blank_append {rest : List Char}
    (dense : ∀ c ∈ rest.head?, isBlankAfterBlank c = false) :
    lexemes (' ' :: rest) = ⟨.blank, [' ']⟩ :: lexemes rest := by
  have taken : extent ' ' ([] ++ rest) = (.blank, ([] : List Char).length) := by
    rw [List.nil_append, List.length_nil, ← run_eq_zero dense]
    rfl
  exact lexemes_append taken

/-- A word between two blanks is one lexeme. -/
theorem lexemes_word_append {c : Char} {own rest : List Char}
    (taken : extent c (own ++ ' ' :: rest) = (.word, own.length))
    (first : isBlankAfterBlank c = false)
    (dense : ∀ c ∈ rest.head?, isBlankAfterBlank c = false) :
    lexemes (' ' :: c :: own ++ ' ' :: rest) =
      ⟨.blank, [' ']⟩ :: ⟨.word, c :: own⟩ :: ⟨.blank, [' ']⟩ :: lexemes rest := by
  have word : lexemes (c :: own ++ ' ' :: rest) = ⟨.word, c :: own⟩ :: lexemes (' ' :: rest) :=
    lexemes_append taken
  rw [List.cons_append, lexemes_blank_append (by simpa using first), word,
    lexemes_blank_append dense]

/-- A digit separates no lexemes. -/
theorem isBlankAfterBlank_of_isDigit {c : Char} (digit : c.isDigit = true) :
    isBlankAfterBlank c = false := by
  by_contra blank
  simp only [isBlankAfterBlank, isBlank, Bool.not_eq_false, Bool.or_eq_true,
    decide_eq_true_eq] at blank
  rcases blank with ((((rfl | rfl) | rfl) | rfl) | rfl) | rfl <;> simp at digit

/-- A word and a number behind it are lexemes of their own. -/
theorem lexemes_word_digits_append {c : Char} {own digits rest : List Char}
    (taken : extent c (own ++ ' ' :: (digits ++ rest)) = (.word, own.length))
    (first : isBlankAfterBlank c = false) (all : ∀ c ∈ digits, c.isDigit = true)
    (some : digits ≠ []) (blank : ∀ c ∈ rest.head?, isBlank c = true) :
    lexemes (' ' :: c :: own ++ ' ' :: (digits ++ rest)) =
      ⟨.blank, [' ']⟩ :: ⟨.word, c :: own⟩ :: ⟨.blank, [' ']⟩ :: ⟨.number, digits⟩ ::
        lexemes rest := by
  have dense : ∀ c ∈ (digits ++ rest).head?, isBlankAfterBlank c = false := by
    obtain ⟨d, more, rfl⟩ := List.exists_cons_of_ne_nil some
    simpa using isBlankAfterBlank_of_isDigit (all d (by simp))
  rw [lexemes_word_append taken first dense, lexemes_digits_append all blank some]

end TypedQuery.Sql
