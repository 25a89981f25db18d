import TypedQuery.Proofs.Text.Legible
import TypedQuery.Proofs.Text.Scanning

/-!
# Quotations as a lexer reads them

The scanner for quotes is never inside a quotation for long: at a mark that is written twice it goes
out of the quotes and comes back at once. A lexer stays inside there, and reads the two marks as one
character of what the quotation says. It cuts a text into the characters outside of all quotes, one
by one, and the quotations (`tokens`), and nothing of the text is lost (`flatMap_chars_tokens`).

What a quotation takes in is settled by `quotation_eq_ended_iff` and `quotation_eq_unended_iff`:
the characters of its content, each mark among them doubled, up to a mark that no other follows, or
to the end of the text if there is none. Both readers leave a quotation at the same place
(`unquoted_quotation`), so they find the same characters outside.
-/

namespace TypedQuery.Text

/-! ## Quotations -/

/-- A text with each mark of one kind written twice. -/
def doubled (mark : Char) : List Char → List Char
  | [] => []
  | c :: rest => if c = mark then mark :: mark :: doubled mark rest else c :: doubled mark rest

/-- What a quotation says, whether a mark ends it, and the text behind it. -/
structure Quotation where
  content : List Char
  ended : Bool
  rest : List Char

/-- A quotation with one more character in front. -/
def Quotation.cons (c : Char) (quotation : Quotation) : Quotation :=
  { quotation with content := c :: quotation.content }

/-- The quotation that a text goes on with behind the opening mark. The mark written twice stands
for itself, a single one ends the quotation, and one that is not ended takes in the whole text. -/
def quotation (mark : Char) : List Char → Quotation
  | [] => ⟨[], false, []⟩
  | c :: rest =>
    if c = mark then
      match rest with
      | d :: more => if d = mark then (quotation mark more).cons mark else ⟨[], true, rest⟩
      | [] => ⟨[], true, []⟩
    else (quotation mark rest).cons c

/-- The text of a quotation behind its opening mark. -/
def quotationTail (mark : Char) (content : List Char) (ended : Bool) : List Char :=
  doubled mark content ++ bif ended then [mark] else []

section Quotation

variable {mark : Char} {text content rest : List Char}

/-- A character other than the mark is one of the quotation. -/
theorem quotation_cons_of_ne {c : Char} (other : c ≠ mark) (text : List Char) :
    quotation mark (c :: text) = (quotation mark text).cons c := by
  cases text <;> simp [quotation, other]

/-- A text goes on with its quotation and what is behind that. -/
theorem quotationTail_append_rest (mark : Char) (text : List Char) :
    quotationTail mark (quotation mark text).content (quotation mark text).ended ++
      (quotation mark text).rest = text := by
  unfold quotationTail
  fun_induction quotation mark text with
  | case1 => rfl
  | case2 more ih => simpa [Quotation.cons, doubled] using ih
  | case3 d more other => rfl
  | case4 => rfl
  | case5 c rest other ih => simpa [Quotation.cons, doubled, other] using ih

/-- Behind a quotation that is ended there is no mark of its kind, and behind one that is not there
is nothing. -/
theorem rest_quotation (mark : Char) (text : List Char) :
    if (quotation mark text).ended then (quotation mark text).rest.head? ≠ some mark
    else (quotation mark text).rest = [] := by
  fun_induction quotation mark text with
  | case1 => rfl
  | case2 more ih => exact ih
  | case3 d more other => simpa using other
  | case4 => simp
  | case5 c rest other ih => exact ih

/-- A quotation that is ended takes in its content, each mark in it doubled, and a mark that no
other follows. -/
theorem quotation_eq_ended_iff :
    quotation mark text = ⟨content, true, rest⟩ ↔
      text = doubled mark content ++ mark :: rest ∧ rest.head? ≠ some mark := by
  constructor
  · intro read
    have whole := quotationTail_append_rest mark text
    have behind := rest_quotation mark text
    rw [read] at whole behind
    exact ⟨by simpa [quotationTail] using whole.symm, by simpa using behind⟩
  · rintro ⟨rfl, behind⟩
    induction content with
    | nil =>
      cases rest with
      | nil => simp [doubled, quotation]
      | cons d more => simp [doubled, quotation, show d ≠ mark by simpa using behind]
    | cons c content ih =>
      by_cases same : c = mark
      · simp [doubled, same, quotation, ih, Quotation.cons]
      · simp [doubled, same, quotation_cons_of_ne, ih, Quotation.cons]

/-- A quotation that is not ended takes in the whole text, in which every mark is doubled. -/
theorem quotation_eq_unended_iff :
    quotation mark text = ⟨content, false, rest⟩ ↔ text = doubled mark content ∧ rest = [] := by
  constructor
  · intro read
    have whole := quotationTail_append_rest mark text
    have behind := rest_quotation mark text
    rw [read] at whole behind
    obtain rfl : rest = [] := by simpa using behind
    exact ⟨by simpa [quotationTail] using whole.symm, rfl⟩
  · rintro ⟨rfl, rfl⟩
    induction content with
    | nil => rfl
    | cons c content ih =>
      by_cases same : c = mark
      · simp [doubled, same, quotation, ih, Quotation.cons]
      · simp [doubled, same, quotation_cons_of_ne, ih, Quotation.cons]

/-- The scanner comes out of a quotation where the lexer does. -/
theorem unquoted_quotation (quotes : isQuoteMark mark = true) (text : List Char) :
    unquoted (some mark) text = unquoted none (quotation mark text).rest := by
  fun_induction quotation mark text with
  | case1 => rfl
  -- Only at a doubled mark is the scanner outside for a moment, and the second mark takes it back.
  | case2 more ih => simpa [Quotation.cons, unquoted, quotes] using ih
  | case3 d more other => simp [unquoted]
  | case4 => simp [unquoted]
  | case5 c rest other ih => simpa [Quotation.cons, unquoted, other] using ih

/-- What is behind a quotation is no longer than the text that the quotation starts. -/
theorem length_rest_quotation (text : List Char) :
    (quotation mark text).rest.length ≤ text.length := by
  have whole := congrArg List.length (quotationTail_append_rest mark text)
  rw [List.length_append] at whole
  omega

end Quotation

/-! ## Tokens -/

/-- A token of a text in the language of the store, as far as quotes go. -/
inductive Token where
  /-- A character outside of all quotes. -/
  | bare (c : Char)
  /-- A quotation with its mark, what it says, and whether a mark ends it. -/
  | quoted (mark : Char) (content : List Char) (ended : Bool)
  deriving DecidableEq

/-- The text of a token. -/
def Token.chars : Token → List Char
  | .bare c => [c]
  | .quoted mark content ended => mark :: quotationTail mark content ended

/-- The tokens of a text: a mark outside of all quotes opens a quotation. -/
def tokens (text : List Char) : List Token :=
  match text with
  | [] => []
  | c :: rest =>
    if isQuoteMark c then
      .quoted c (quotation c rest).content (quotation c rest).ended ::
        tokens (quotation c rest).rest
    else .bare c :: tokens rest
termination_by text.length
decreasing_by
  · exact Nat.lt_succ_of_le (length_rest_quotation rest)
  · exact Nat.lt_succ_self _

/-- Nothing of a text is lost when it is cut into tokens. -/
theorem flatMap_chars_tokens (text : List Char) : (tokens text).flatMap Token.chars = text := by
  fun_induction tokens text with
  | case1 => rfl
  | case2 c rest mark ih =>
    rw [List.flatMap_cons, ih, Token.chars, List.cons_append, quotationTail_append_rest]
  | case3 c rest plain ih => rw [List.flatMap_cons, ih, Token.chars, List.singleton_append]

/-! ## Characters outside of all quotes -/

/-- The length of a text in bytes. -/
def byteLength : List Char → Nat
  | [] => 0
  | c :: rest => c.utf8Size + byteLength rest

/-- The characters that are no part of a quotation, each with its offset in bytes, of tokens that
start at an offset. -/
def bareAt (offset : Nat) : List Token → List (Nat × Char)
  | [] => []
  | .bare c :: rest => (offset, c) :: bareAt (offset + c.utf8Size) rest
  | .quoted mark content ended :: rest =>
    bareAt (offset + byteLength (Token.quoted mark content ended).chars) rest

/-- What the scanner finds outside quotes, each character with its offset in bytes. -/
def visits (text : List Char) : List (Nat × Char) :=
  (unquoted none text).map fun place =>
    (byteLength text - byteLength (place.1 :: place.2), place.1)

/-- The length of two texts is the sum of their lengths. -/
theorem byteLength_append (s t : List Char) :
    byteLength (s ++ t) = byteLength s + byteLength t := by
  induction s with
  | nil => exact (Nat.zero_add _).symm
  | cons c s ih => rw [List.cons_append, byteLength, byteLength, ih, Nat.add_assoc]

/-- In a text that starts at an offset, the scanner and the lexer find the same characters at the
same offsets. -/
theorem map_unquoted_eq_bareAt (text : List Char) {start stop : Nat}
    (ends : start + byteLength text = stop) :
    (unquoted none text).map (fun place => (stop - byteLength (place.1 :: place.2), place.1)) =
      bareAt start (tokens text) := by
  fun_induction tokens text generalizing start with
  | case1 => rfl
  | case2 c rest mark ih =>
    -- Both go on behind the quotation.
    have token : (Token.quoted c (quotation c rest).content (quotation c rest).ended).chars ++
        (quotation c rest).rest = c :: rest :=
      congrArg (c :: ·) (quotationTail_append_rest _ rest)
    have scanned : unquoted none (c :: rest) = unquoted none (quotation c rest).rest := by
      rw [unquoted, if_pos mark, unquoted_quotation mark]
    rw [scanned, bareAt]
    refine ih ?_
    rw [← ends, ← token, byteLength_append, Nat.add_assoc]
  | case3 c rest plain ih =>
    -- The offset of a character is what the text is longer than its rest from there on.
    have size : byteLength (c :: rest) = c.utf8Size + byteLength rest := rfl
    have behind : start + c.utf8Size + byteLength rest = stop := by omega
    have here : stop - byteLength (c :: rest) = start := by omega
    rw [unquoted, if_neg plain, List.map_cons, bareAt, ih behind, here]

/-- There are as many of a character at offsets as among the tokens. -/
theorem countP_bareAt (c : Char) (list : List Token) (start : Nat) :
    (bareAt start list).countP (fun place => place.2 = c) =
      list.countP fun token => token = .bare c := by
  fun_induction bareAt start list with
  | case1 => rfl
  | case2 start d rest ih => simp [List.countP_cons, ih]
  | case3 start mark content ended rest ih => simp [ih]

/-! ## Quoted names -/

/-- A name is written in quotes by doubling the double quotes in it. -/
theorem doubleQuotes_eq_doubled (text : List Char) : doubleQuotes text = doubled '"' text := by
  induction text with
  | nil => rfl
  | cons c rest ih => rw [doubleQuotes, doubled, ih]

/-- A name in quotes is read as one quotation, which says the name, in front of anything but a
double quote. -/
theorem tokens_quotedName_append (name : String) {rest : List Char} (ends : EndsName rest) :
    tokens (quotedName name ++ rest) = .quoted '"' name.toList true :: tokens rest := by
  have read : quotation '"' (doubled '"' name.toList ++ '"' :: rest) =
      ⟨name.toList, true, rest⟩ := quotation_eq_ended_iff.2 ⟨rfl, ends⟩
  have shape : quotedName name ++ rest = '"' :: (doubled '"' name.toList ++ '"' :: rest) := by
    simp [quotedName, doubleQuotes_eq_doubled]
  rw [shape, tokens, if_pos (show isQuoteMark '"' = true from rfl), read]

/-- The scanner finds the characters that are no part of a quotation, where they are, in every text:
the tokens of a text are the text, and what the scanner visits are the bare ones among them with
their offsets. So placeholders are the bare question marks. A name in quotes is one quotation, which
says the name, whatever is behind it but a double quote. -/
theorem visits_eq_bareAt :
    (∀ text, (tokens text).flatMap Token.chars = text ∧ visits text = bareAt 0 (tokens text)) ∧
      (∀ fragment : String, placeholderCount fragment =
        (tokens fragment.toList).countP fun token => token = .bare '?') ∧
      ∀ (name : String) (rest : List Char), EndsName rest →
        tokens (quotedName name ++ rest) = .quoted '"' name.toList true :: tokens rest := by
  have visited (text : List Char) : visits text = bareAt 0 (tokens text) :=
    map_unquoted_eq_bareAt text (Nat.zero_add _)
  refine ⟨fun text => ⟨flatMap_chars_tokens text, visited text⟩, fun fragment => ?_,
    fun name rest ends => tokens_quotedName_append name ends⟩
  rw [← countP_bareAt '?' _ 0, ← visited, visits, List.countP_map]
  rfl

/-- A column with a double quote in its name, compared with a placeholder. -/
theorem tokens_weird : EndsName " = ?".toList ∧
    tokens (quotedName "we\"ird" ++ " = ?".toList) =
      [.quoted '"' "we\"ird".toList true, .bare ' ', .bare '=', .bare ' ', .bare '?'] := by
  have ends : EndsName " = ?".toList := by simp [EndsName]
  refine ⟨ends, (visits_eq_bareAt.2.2 _ _ ends).trans ?_⟩
  simp [tokens, isQuoteMark]

end TypedQuery.Text
