import TypedQuery.Database.Failure
import TypedQuery.Sql.Lexeme

/-!
# Reading token by token

A statement is read from its lexemes without blanks and comments. Where it cannot be read on, the
lexeme there is named with its offset in bytes, or the text is said to end too early.
-/

namespace TypedQuery.Database

/-- A lexeme with its offset in the text, in bytes. -/
structure Token where
  lexeme : Sql.Lexeme
  offset : Nat

/-- What is left to read of a statement. -/
structure Reading where
  /-- The text that failures show. -/
  text : String
  tokens : List Token
  /-- How many values the statement needs, as far as it has been read. -/
  placeholders : Nat := 0
  /-- The placeholders that have a name, with their positions. -/
  named : List (List Char × Nat) := []

/-- A reader. -/
abbrev Reader := StateT Reading (Except Failure)

namespace Reader

/-- Stops at the next token. -/
def unexpected {α : Type} : Reader α := do
  let state ← get
  match state.tokens with
  | [] => throw (.code 1 "incomplete input")
  | token :: _ =>
    let shown := String.ofList token.lexeme.text
    let message := if token.lexeme.kind = .bad then s!"unrecognized token: \"{shown}\""
      else s!"near \"{shown}\": syntax error"
    throw (.input message state.text token.offset)

/-- Takes the next token if it is wanted. -/
def next? {α : Type} (wanted : Token → Option α) : Reader (Option α) := do
  let state ← get
  match state.tokens with
  | [] => return none
  | token :: rest =>
    match wanted token with
    | none => return none
    | some found =>
      set { state with tokens := rest }
      return some found

/-- Takes the next token, which must be wanted. -/
def next {α : Type} (wanted : Token → Option α) : Reader α := do
  match ← next? wanted with
  | some found => return found
  | none => unexpected

/-- Whether a token is a keyword, written in lower case here. -/
def isKeyword (word : String) (token : Token) : Bool :=
  token.lexeme.kind = .word && (String.ofList token.lexeme.text).toLower = word

/-- Whether a token is a mark. -/
def isMark (mark : String) (token : Token) : Bool :=
  token.lexeme.kind = .mark && String.ofList token.lexeme.text = mark

/-- Takes the next token if it meets a test, and tells whether it does. -/
def skip (test : Token → Bool) : Reader Bool := do
  return (← next? fun token => if test token then some () else none).isSome

/-- Takes a keyword if it comes next. -/
def keyword? (word : String) : Reader Bool := skip (isKeyword word)

/-- Takes a mark if it comes next. -/
def mark? (mark : String) : Reader Bool := skip (isMark mark)

/-- Takes a keyword. -/
def keyword (word : String) : Reader Unit :=
  next fun token => if isKeyword word token then some () else none

/-- Takes a mark. -/
def mark (mark : String) : Reader Unit :=
  next fun token => if isMark mark token then some () else none

/-- Whether the next tokens meet tests, one each. -/
def comes (tests : List (Token → Bool)) : Reader Bool := do
  let tokens := (← get).tokens
  return tests.length ≤ tokens.length && (tests.zip tokens).all fun (test, token) => test token

/-- The words that are no names. -/
def reserved : List String :=
  ["add", "all", "alter", "and", "as", "autoincrement", "between", "case", "check", "collate",
    "commit", "constraint", "create", "default", "deferrable", "delete", "distinct", "drop", "else",
    "escape", "except", "exists", "foreign", "from", "group", "having", "in", "index", "insert",
    "intersect", "into", "is", "isnull", "join", "limit", "not", "nothing", "notnull", "null", "on",
    "or", "order", "primary", "references", "returning", "select", "set", "table", "then", "to",
    "transaction", "union", "unique", "update", "using", "values", "when", "where"]

/-- The name that a token is. A text literal may stand for one. -/
def nameOf? (token : Token) : Option String :=
  let name := String.ofList token.lexeme.content
  match token.lexeme.kind with
  | .name | .text => some name
  | .word => if reserved.contains name.toLower then none else some name
  | _ => none

/-- Whether a token is a name. -/
def isName (token : Token) : Bool := (nameOf? token).isSome

/-- A name with its token. -/
def place : Reader (String × Token) :=
  next fun token => (nameOf? token).map (·, token)

/-- A name. -/
def name : Reader String := do return (← place).1

/-- One thing or more, with commas between them; `fuel` bounds their number. -/
def several {α : Type} (item : Reader α) : Nat → Reader (List α)
  | 0 => unexpected
  | fuel + 1 => do
    let first ← item
    if ← mark? "," then return first :: (← several item fuel) else return [first]

/-- One thing or more, with commas between them. -/
def list {α : Type} (item : Reader α) : Reader (List α) := do
  several item (← get).tokens.length

/-- A thing in brackets. -/
def bracketed {α : Type} (item : Reader α) : Reader α := do
  mark "("
  let found ← item
  mark ")"
  return found

end Reader

end TypedQuery.Database
