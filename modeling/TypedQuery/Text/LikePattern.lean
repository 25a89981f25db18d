/-!
# Search patterns

A pattern of the store's LIKE operator matches a whole text: a percent sign stands for any sequence
of characters, an underscore for exactly one, and the escape character for the character after it.
A term that should match literally is therefore escaped, and put between two percent signs it is
found anywhere in a text.
-/

namespace TypedQuery.Text

/-- The character that takes the meaning from the one after it. -/
def escapeMark : Char := '\\'

/-- Whether a character would mean something in a pattern if it stood there alone. -/
def isPatternMark (c : Char) : Bool :=
  c = '\\' || c = '%' || c = '_'

/-- A term with the escape character before every character that a pattern gives a meaning. -/
def escapeLike : List Char → List Char
  | [] => []
  | c :: rest =>
    if isPatternMark c then escapeMark :: c :: escapeLike rest else c :: escapeLike rest

/-- The pattern of the texts that contain a term. -/
def containsPattern (term : String) : String :=
  String.ofList ('%' :: escapeLike term.toList ++ ['%'])

end TypedQuery.Text
