import TypedQuery.Text.Hexadecimal

/-!
# Lexemes of the store's language

The store cuts a statement into lexemes by its own rules. Literals and names in quotes end at the
next mark of their kind that is not written twice, names in brackets at the closing bracket, and two
kinds of comments hide whatever stands in them. A variable is a question mark, with or without a
number, or a sign with a name. The digits of a number may have underscores between them.

A lexeme keeps its text as it is written, and the lexemes of a text are the text:
`flatMap_text_lexemes`.
-/

namespace TypedQuery.Sql

/-- What a lexeme is. -/
inductive LexemeKind where
  | blank
  | comment
  /-- A keyword, or a name without quotes. -/
  | word
  /-- A name in quotes or brackets. -/
  | name
  /-- A text literal. -/
  | text
  | number
  /-- A literal of bytes, in hexadecimal digits. -/
  | bytes
  | variable
  | mark
  /-- What the store does not accept anywhere. -/
  | bad
  deriving DecidableEq, Inhabited

/-- A piece of a statement as it is written. -/
structure Lexeme where
  kind : LexemeKind
  text : List Char
  deriving DecidableEq

/-- Whether a character separates lexemes. -/
def isBlank (c : Char) : Bool :=
  c = ' ' || c = '\t' || c = '\n' || c = '\x0c' || c = '\r'

/-- Whether a character may stand behind another one that separates lexemes. A vertical tab
separates none of its own. -/
def isBlankAfterBlank (c : Char) : Bool := isBlank c || c = '\x0b'

/-- Whether a character may stand behind a digit of a number: digits may be grouped. -/
def isNumeric (c : Char) : Bool := c.isDigit || c = '_'

/-- Whether a character may stand in a name without quotes: an ASCII letter or digit, an underscore,
a dollar sign, or anything beyond ASCII. -/
def isNameChar (c : Char) : Bool :=
  c.isAlphanum || c = '_' || c = '$' || 128 ≤ c.toNat

/-- The number of characters in front of a text that belong to a class. -/
def run (p : Char → Bool) (text : List Char) : Nat := (text.takeWhile p).length

/-- The number of characters from inside a quote up to its end, or none if it does not end. A mark
written twice does not end it. -/
def quoteLength? (mark : Char) : List Char → Option Nat
  | [] => none
  | c :: rest =>
    if c = mark then
      match rest with
      | d :: more => if d = mark then (quoteLength? mark more).map (· + 2) else some 1
      | [] => some 1
    else (quoteLength? mark rest).map (· + 1)

/-- The number of characters from inside a comment up to its closing marks, or to the end of the
text. -/
def commentLength : List Char → Nat
  | '*' :: '/' :: _ => 2
  | _ :: rest => commentLength rest + 1
  | [] => 0

/-- The number of characters of an exponent in front of a text. -/
def exponentLength : List Char → Nat
  | e :: rest =>
    if e = 'e' ∨ e = 'E' then
      match rest with
      | sign :: digits =>
        if sign = '+' ∨ sign = '-' then
          if run Char.isDigit digits = 0 then 0 else run isNumeric digits + 2
        else if run Char.isDigit rest = 0 then 0 else run isNumeric rest + 1
      | [] => 0
    else 0
  | [] => 0

/-- The number of characters of a decimal number in front of a text. -/
def decimalLength (text : List Char) : Nat :=
  let whole := run isNumeric text
  let places :=
    match text.drop whole with
    | '.' :: digits => run isNumeric digits + 1
    | _ => 0
  whole + places + exponentLength (text.drop (whole + places))

/-- The number of characters of a number in front of a text that starts with a digit or a point. -/
def numberLength (text : List Char) : Nat :=
  match text with
  | '0' :: x :: digits =>
    if (x = 'x' ∨ x = 'X') ∧ run Text.isHexDigit digits ≠ 0 then
      run (fun d => Text.isHexDigit d || d = '_') digits + 2
    else decimalLength text
  | _ => decimalLength text

/-- Whether two characters are one mark. -/
def isDoubleMark (c d : Char) : Bool :=
  (c, d) ∈ [('<', '='), ('<', '>'), ('<', '<'), ('>', '='), ('>', '>'), ('=', '='), ('!', '='),
    ('|', '|'), ('-', '>')]

/-- The kind of the lexeme that starts with a character, and the number of characters of the text
after it that it takes in. -/
def extent (c : Char) (rest : List Char) : LexemeKind × Nat :=
  if isBlank c then (.blank, run isBlankAfterBlank rest)
  else if c = '\ufeff' then (.blank, 0)
  else if c = '-' ∧ rest.head? = some '-' then (.comment, run (· ≠ '\n') rest)
  else if c = '/' ∧ rest.head? = some '*' ∧ 1 < rest.length then
    (.comment, commentLength (rest.drop 1) + 1)
  else if c = '\'' ∨ c = '"' ∨ c = '\x60' then
    match quoteLength? c rest with
    | some n => (if c = '\'' then .text else .name, n)
    | none => (.bad, rest.length)
  else if c = '[' then
    if run (· ≠ ']') rest = rest.length then (.bad, rest.length)
    else (.name, run (· ≠ ']') rest + 1)
  else if (c = 'x' ∨ c = 'X') ∧ rest.head? = some '\'' then
    let digits := run Text.isHexDigit (rest.drop 1)
    if (rest.drop (digits + 1)).head? = some '\'' ∧ digits % 2 = 0 then (.bytes, digits + 2)
    else (.bad, run (· ≠ '\'') (rest.drop 1) + 2)
  else if c.isDigit ∨ (c = '.' ∧ (rest.head?.any Char.isDigit)) then
    let length := numberLength (c :: rest) - 1
    let tail := run isNameChar (rest.drop length)
    if tail = 0 then (.number, length) else (.bad, length + tail)
  else if c = '?' then (.variable, run Char.isDigit rest)
  else if c = ':' ∨ c = '@' ∨ c = '$' then
    let length := run isNameChar rest
    (if length = 0 then .bad else .variable, length)
  else if isNameChar c then (.word, run isNameChar rest)
  else if rest.head?.any (isDoubleMark c) then (.mark, 1)
  else if c ∈ ['(', ')', ',', ';', '=', '<', '>', '+', '-', '*', '/', '%', '.', '|', '&', '~'] then
    (.mark, 0)
  else (.bad, 0)

/-- The lexemes of a text. -/
def lexemes (text : List Char) : List Lexeme :=
  match text with
  | [] => []
  | c :: rest =>
    let (kind, n) := extent c rest
    ⟨kind, c :: rest.take n⟩ :: lexemes (rest.drop n)
termination_by text.length
decreasing_by simp only [List.length_drop, List.length_cons]; omega

/-- Nothing of a text is lost when it is cut. -/
theorem flatMap_text_lexemes (text : List Char) : (lexemes text).flatMap Lexeme.text = text := by
  fun_induction lexemes text with
  | case1 => rfl
  | case2 c rest kind n _ ih => simp [ih]

/-- The text of a name or a literal in quotes, each doubled mark read as one. -/
def unquote (mark : Char) : List Char → List Char
  | [] => []
  | c :: rest =>
    if c = mark then
      match rest with
      | d :: more => if d = mark then d :: unquote mark more else []
      | [] => []
    else c :: unquote mark rest

/-- What a name or a literal says, without its marks. -/
def Lexeme.content (lexeme : Lexeme) : List Char :=
  match lexeme.text with
  | '[' :: rest => rest.dropLast
  | mark :: rest => if lexeme.kind = .name ∨ lexeme.kind = .text then unquote mark rest
    else mark :: rest
  | [] => []

end TypedQuery.Sql
