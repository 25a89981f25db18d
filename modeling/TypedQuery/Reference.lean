import TypedQuery.Error
import TypedQuery.Text.Alphanumeric

/-!
# References to columns and tables

Columns and tables are named by short texts. A column reference is an optional scope with a point,
a name or a star, and an optional alias after the word `as`; a table reference has no scope and no
star. A name starts with an ASCII letter or an underscore and goes on with letters and digits of any
script. Blanks may stand at both ends and must stand around the word `as`, whose case does not
matter; only spaces, tabs and line ends are blanks here.

Reading is by longest match and never goes back: a name takes every character that can continue it,
so what follows is decided by the next character alone. An alias is the only part that is given up
when it turns out incomplete, and then characters are left over and the reference is refused.
-/

namespace TypedQuery

/-- What a column reference names: every column, or the one of a name. -/
inductive ColumnName where
  | star
  | named (name : String)
  deriving DecidableEq, Inhabited

/-- A column reference. -/
structure ColumnSpec where
  qualifier : Option String
  column : ColumnName
  outputAlias : Option String
  deriving DecidableEq, Inhabited

/-- A table reference. -/
structure TableSpec where
  table : String
  scopeAlias : Option String
  deriving DecidableEq, Inhabited

namespace Reference

/-- Whether a character is a blank of a reference. -/
def isSpace (c : Char) : Bool :=
  c = ' ' || c = '\t' || c = '\r' || c = '\n'

/-- Whether a character may start a name. -/
def startsName (c : Char) : Bool :=
  (c.toNat < 128 && c.isAlpha) || c = '_'

/-- A text without the blanks in front. -/
def skipSpaces (text : List Char) : List Char :=
  text.dropWhile isSpace

/-- The longest name in front of a text, with the text after it. -/
def name? : List Char → Option (String × List Char)
  | [] => none
  | c :: rest =>
    if startsName c then
      some (String.ofList (c :: rest.takeWhile Text.isWordChar), rest.dropWhile Text.isWordChar)
    else none

/-- The text after the blanks in front, of which there is at least one. -/
def spaces? : List Char → Option (List Char)
  | [] => none
  | c :: rest => if isSpace c then some (skipSpaces rest) else none

/-- The text after the word `as` in front, in capitals or not. -/
def asWord? : List Char → Option (List Char)
  | a :: s :: rest =>
    if (a = 'a' || a = 'A') && (s = 's' || s = 'S') then some rest else none
  | _ => none

/-- An alias in front of a text: blanks, the word `as`, blanks and a name. -/
def alias? (text : List Char) : Option (String × List Char) := do
  let afterSpaces ← spaces? text
  let afterWord ← asWord? afterSpaces
  let afterBlanks ← spaces? afterWord
  name? afterBlanks

/-- The alias in front of a text if there is a whole one, and the text after it. -/
def optionalAlias (text : List Char) : Option String × List Char :=
  match alias? text with
  | some (name, rest) => (some name, rest)
  | none => (none, text)

/-- The scope in front of a text if a point follows the first name, and the text after it. -/
def optionalQualifier (text : List Char) : Option String × List Char :=
  match name? text with
  | some (name, '.' :: rest) => (some name, rest)
  | _ => (none, text)

/-- A star or a name in front of a text. -/
def columnName? : List Char → Option (ColumnName × List Char)
  | '*' :: rest => some (.star, rest)
  | text => (name? text).map fun (name, rest) => (.named name, rest)

/-- The column reference that a text is, from its first to its last character. -/
def column? (text : List Char) : Option ColumnSpec := do
  let (qualifier, afterQualifier) := optionalQualifier (skipSpaces text)
  let (column, afterColumn) ← columnName? afterQualifier
  let (outputAlias, rest) := optionalAlias afterColumn
  if (skipSpaces rest).isEmpty then some ⟨qualifier, column, outputAlias⟩ else none

/-- The table reference that a text is, from its first to its last character. -/
def table? (text : List Char) : Option TableSpec := do
  let (table, afterTable) ← name? (skipSpaces text)
  let (scopeAlias, rest) := optionalAlias afterTable
  if (skipSpaces rest).isEmpty then some ⟨table, scopeAlias⟩ else none

end Reference

/-- Reads a column reference. -/
def ColumnSpec.ofString (spec : String) : Except QueryError ColumnSpec :=
  match Reference.column? spec.toList with
  | some column => .ok column
  | none => .error (.invalidPlan (.malformedColumn spec))

/-- Reads a table reference. -/
def TableSpec.ofString (spec : String) : Except QueryError TableSpec :=
  match Reference.table? spec.toList with
  | some table => .ok table
  | none => .error (.invalidPlan (.malformedTable spec))

end TypedQuery
