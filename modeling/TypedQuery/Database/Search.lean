import TypedQuery.Sql.Lexeme
import TypedQuery.Value.Basic

/-!
# Searches as the store answers them

A search compares a text with a pattern. What the store's functions do with the two is documented:
LOWER makes the ASCII capitals of a text small and leaves every other character as it is, and LIKE
asks whether a whole text fits a pattern. A percent sign of the pattern stands for any sequence of
characters, an underscore for exactly one, and the escape character for the character after it.
LIKE takes a capital and a small letter of ASCII for one character and tells all others apart.

A condition is a search if its lexemes are those of one. `Search.ofText?` reads it as the store
would, blanks and comments aside.
-/

namespace TypedQuery.Database

/-- A text with its ASCII capitals made small. -/
def lowerAscii (text : List Char) : List Char :=
  text.map Char.toLower

/-- Whether two characters are one, letter case of ASCII letters aside. -/
def sameLetter (c d : Char) : Bool :=
  c.toLower = d.toLower

/-- Whether a whole text fits a pattern, where `same` compares the characters that the pattern gives
no meaning. An escape character at the end of a pattern fits nothing. -/
def fits (same : Char → Char → Bool) (escape : Char) : List Char → List Char → Bool
  | [], text => text.isEmpty
  | mark :: pattern, text =>
    if mark = escape then
      match pattern, text with
      | c :: pattern, d :: text => same c d && fits same escape pattern text
      | _, _ => false
    else if mark = '%' then
      (List.range (text.length + 1)).any fun n => fits same escape pattern (text.drop n)
    else
      match text with
      | d :: text => (mark = '_' || same mark d) && fits same escape pattern text
      | [] => false

/-- A search: the scope and the name of the column whose texts are compared, and the escape
character of the pattern. -/
structure Search where
  scope : String
  column : String
  escape : Char
  deriving DecidableEq

namespace Search

/-- Whether a word is a keyword, written in lower case here. -/
def isKeyword (keyword : String) (word : List Char) : Bool :=
  lowerAscii word = keyword.toList

/-- The search that lexemes are: a column in LOWER and brackets, LIKE with a placeholder, and ESCAPE
with a literal of one character. -/
def ofLexemes? : List Sql.Lexeme → Option Search
  | [⟨.word, lower⟩, ⟨.mark, ['(']⟩, scope, ⟨.mark, ['.']⟩, column, ⟨.mark, [')']⟩, ⟨.word, like⟩,
      ⟨.variable, ['?']⟩, ⟨.word, escape⟩, ⟨.text, ['\'', c, '\'']⟩] =>
    if isKeyword "lower" lower && isKeyword "like" like && isKeyword "escape" escape &&
        scope.kind = .name && column.kind = .name then
      some ⟨String.ofList scope.content, String.ofList column.content, c⟩
    else none
  | _ => none

/-- The search that the text of a condition says, if it says one. -/
def ofText? (text : String) : Option Search :=
  ofLexemes? ((Sql.lexemes text.toList).filter fun lexeme =>
    lexeme.kind ≠ .blank && lexeme.kind ≠ .comment)

/-- Whether a search is true of a text in its column. The pattern is the only value that it has a
placeholder for. -/
def holds (search : Search) (params : List Value) (stored : String) : Bool :=
  match params with
  | [.text pattern] => fits sameLetter search.escape pattern.toList (lowerAscii stored.toList)
  | _ => false

end Search

end TypedQuery.Database
