import TypedQuery.Text.Alphanumeric

/-!
# Quotes and placeholders in predicates

A predicate is text in the store's language. A question mark in it stands for a value, unless it
lies inside a quoted literal or a quoted name. There are three quote marks, and a quote ends at the
next mark of its own kind. A mark written twice inside a quote therefore ends it and opens it again
at once, which leaves the same characters outside.

`unquoted` lists what lies outside all quotes, each character with the text that follows it.
Counting placeholders and refusing numbered or named ones are questions about that list.
-/

namespace TypedQuery.Text

/-- Whether a character opens a quote: an apostrophe, a double quote or a grave accent. -/
def isQuoteMark (c : Char) : Bool :=
  c = '\'' || c = '"' || c = '\x60'

/-- The quote that is open after one more character, given the one that was open before it. -/
def quoteAfter (quote : Option Char) (c : Char) : Option Char :=
  match quote with
  | none => if isQuoteMark c then some c else none
  | some mark => if c = mark then none else some mark

/-- The characters outside all quotes, each with the text after it. -/
def unquoted (quote : Option Char) : List Char → List (Char × List Char)
  | [] => []
  | c :: rest =>
    match quote with
    | none =>
      if isQuoteMark c then unquoted (some c) rest else (c, rest) :: unquoted none rest
    | some mark => unquoted (if c = mark then none else some mark) rest

/-- The quote that is open at the end of a text. -/
def quoteAtEnd (quote : Option Char) (text : List Char) : Option Char :=
  text.foldl quoteAfter quote

/-- The number of question marks outside all quotes. -/
def placeholderCount (fragment : String) : Nat :=
  (unquoted none fragment.toList).countP fun place => place.1 = '?'

/-- Whether a character and the text after it start a numbered placeholder, a question mark with a
digit, or a named one, a colon, an at sign or a dollar sign with a word. -/
def startsVariable (c : Char) (rest : List Char) : Bool :=
  match rest with
  | [] => false
  | next :: _ =>
    (c = '?' && next.isDigit) || ((c = ':' || c = '@' || c = '$') && isWordChar next)

/-- The first numbered or named placeholder outside all quotes: its sign and the word after it. -/
def numberedOrNamed? (fragment : String) : Option String :=
  ((unquoted none fragment.toList).find? fun place => startsVariable place.1 place.2).map
    fun place => String.ofList (place.1 :: place.2.takeWhile isWordChar)

/-- A text with each double quote written twice. -/
def doubleQuotes : List Char → List Char
  | [] => []
  | c :: rest => if c = '"' then '"' :: '"' :: doubleQuotes rest else c :: doubleQuotes rest

/-- A name as the store reads it whatever characters it holds: in double quotes, with each double
quote inside written twice. -/
def quotedName (name : String) : List Char :=
  '"' :: doubleQuotes name.toList ++ ['"']

/-- The quote that is open at the end of two texts is the one that the second leaves open after the
first. -/
theorem quoteAtEnd_append (quote : Option Char) (s t : List Char) :
    quoteAtEnd quote (s ++ t) = quoteAtEnd (quoteAtEnd quote s) t := by
  simp [quoteAtEnd, List.foldl_append]

end TypedQuery.Text
