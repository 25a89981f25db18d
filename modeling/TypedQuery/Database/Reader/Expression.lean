import TypedQuery.Database.Expression
import TypedQuery.Database.Reader.Basic

/-!
# Reading expressions

Expressions are read by precedence: the operators are listed from the tightest to the loosest, and
those of one rank group to the left. Recursion into brackets and behind signs is bounded by the
number of tokens.
-/

namespace TypedQuery.Database

/-- The spelling of a number without the underscores between its digits. If one of them is not
between two digits, the number is given as it is shown then: without those in front of the last one
that is misplaced. -/
def closedUp (spelling : List Char) : Except (List Char) (List Char) :=
  let isDigit := if (hexDigits? spelling).isSome then Text.isHexDigit else Char.isDigit
  let isMisplaced (i : Nat) : Bool :=
    spelling[i]? = some '_' && !((spelling.take i).getLast?.any isDigit &&
      spelling[i + 1]?.any isDigit)
  let plain (text : List Char) : List Char := text.filter (· ≠ '_')
  match ((List.range spelling.length).filter isMisplaced).getLast? with
  | none => .ok (plain spelling)
  | some i =>
    let front := plain (spelling.take i)
    .error (front ++ spelling.drop front.length)

namespace Reader

/-- How loosely the operators of an expression may bind. -/
inductive Grade where
  /-- There is no operator but in front of the operand. -/
  | operand
  /-- Comparisons by size bind loosest. -/
  | comparison
  /-- Comparisons for equality bind loosest. -/
  | equality
  | any

/-- The operators that bind tighter than those for equality, from the tightest to the loosest. -/
def tightOperators : List (List (String × Operator)) :=
  [[("||", .joined)],
   [("*", .times), ("/", .divided), ("%", .remainder)],
   [("+", .plus), ("-", .minus)],
   [("&", .bitAnd), ("|", .bitOr), ("<<", .shiftLeft), (">>", .shiftRight)],
   [("<", .less), ("<=", .atMost), (">", .greater), (">=", .atLeast)]]

/-- The operators for equality. -/
def equalities : List (String × Operator) :=
  [("=", .equal), ("==", .equal), ("<>", .unequal), ("!=", .unequal)]

/-- The operators that bind looser than those for equality, from the tightest to the loosest. -/
def looseOperators : List (List (String × Operator)) :=
  [[("and", .both)], [("or", .either)]]

/-- The operators in front of an operand that bind tighter than all others. -/
def signs : List (String × Sign) :=
  [("-", .negated), ("+", .unchanged), ("~", .inverted)]

/-- What a token stands for in a table of marks and keywords. -/
def meaning? {α : Type} (table : List (String × α)) (token : Token) : Option α :=
  (table.find? fun (word, _) => isMark word token || isKeyword word token).map (·.2)

/-- What follows an operand: operators of one rank with their operands, grouped to the left. -/
def continued (rank : List (String × Operator)) (operand : Reader Expr) (left : Expr) :
    Nat → Reader Expr
  | 0 => return left
  | fuel + 1 => do
    match ← next? (meaning? rank) with
    | none => return left
    | some operator => continued rank operand (.binary operator left (← operand)) fuel

/-- Operands with operators of one rank between them. -/
def chain (rank : List (String × Operator)) (operand : Reader Expr) : Reader Expr := do
  let first ← operand
  continued rank operand first (← get).tokens.length

/-- What follows an operand: operators of several ranks, the tightest first. -/
def ranked (operand : Reader Expr) (left : Expr) : List (List (String × Operator)) → Reader Expr
  | [] => return left
  | rank :: looser => do
    let found ← continued rank operand left (← get).tokens.length
    ranked (chain rank operand) found looser

/-- The denial of an expression, if it is wanted. -/
def deniedIf (denied : Bool) (expr : Expr) : Expr :=
  if denied then .unary .denied expr else expr

/-- The truth value that an expression names without quotes. -/
def truthNamed? : Expr → Option Bool
  | .column ⟨none, name, _, some (.integer i)⟩ =>
    if sameName name "true" ∨ sameName name "false" then some (i ≠ 0) else none
  | _ => none

/-- A comparison in which null is equal to itself, or a test for a truth value. -/
def identity (denied : Bool) (left right : Expr) : Expr :=
  match truthNamed? right with
  | some wanted => deniedIf denied (.hasTruth left wanted)
  | none => .binary (if denied then .different else .same) left right

/-- What follows an operand among the tests that come behind their operand, `denied` telling whether
there is a word in front of them that turns them round. -/
def tested (inner : Grade → Reader Expr) (denied : Bool) (left : Expr) :
    Reader (Option Expr) := do
  if ← keyword? "between" then
    let low ← inner .equality
    -- behind an alternative, there is no word left for the upper bound
    if ← keyword? "or" then let _ ← inner .any
    keyword "and"
    let high ← inner .comparison
    return some (deniedIf denied
      (.binary .both (.binary .atLeast left low) (.binary .atMost left high)))
  if ← keyword? "in" then
    mark "("
    -- nothing is among no values, whatever it is
    if ← mark? ")" then return some (.literal (ofTruth (some denied)))
    let others ← list (inner .any)
    mark ")"
    return some (deniedIf denied (.among left others))
  if denied then
    keyword "null"
    return some (.binary .different left (.literal .null))
  if ← keyword? "isnull" then return some (.binary .same left (.literal .null))
  if ← keyword? "notnull" then return some (.binary .different left (.literal .null))
  return none

/-- What follows an operand: comparisons for equality and tests, grouped to the left. Behind a test,
any operator may follow. -/
def compared (inner : Grade → Reader Expr) (tight : Expr → Reader Expr) (operand : Reader Expr)
    (left : Expr) : Nat → Reader Expr
  | 0 => return left
  | fuel + 1 => do
    if let some operator ← next? (meaning? equalities) then
      compared inner tight operand (.binary operator left (← operand)) fuel
    else if ← keyword? "is" then
      let denied ← keyword? "not"
      if ← comes [isKeyword "distinct", isKeyword "from"] then
        keyword "distinct"
        keyword "from"
        compared inner tight operand (identity (!denied) left (← operand)) fuel
      else compared inner tight operand (identity denied left (← operand)) fuel
    else
      match ← tested inner (← keyword? "not") left with
      | some found => compared inner tight operand (← tight found) fuel
      | none => return left

/-- The literal that a token is, numbers aside. -/
def literalOf? (token : Token) : Option Value :=
  let lexeme := token.lexeme
  match lexeme.kind with
  | .text => some (.text (String.ofList lexeme.content))
  | .bytes => some (.blob (Text.bytesOfHex ((lexeme.text.drop 2).dropLast)))
  | _ => if isKeyword "null" token then some .null else none

/-- The number that a token is. -/
def number (token : Token) : Reader Expr := do
  match closedUp token.lexeme.text with
  | .ok spelling => return .number spelling token.offset
  | .error shown =>
    let shown := String.ofList shown
    throw (.code 1 s!"unrecognized token: \"{shown}\"")

/-- The placeholder that a token is. One without a number or a name follows the last one so far. -/
def placeholder (token : Token) : Reader Expr := do
  let state ← get
  let text := token.lexeme.text
  let position ← match text with
    | ['?'] => pure state.placeholders
    | '?' :: digits =>
      let number := Calendar.digitsValue digits
      if 1 ≤ number ∧ number ≤ 32766 then pure (number - 1)
      else
        let message := "variable number must be between ?1 and ?32766"
        throw (.input message state.text token.offset)
    | _ => pure ((state.named.lookup text).getD state.placeholders)
  set { state with
    placeholders := max state.placeholders (position + 1)
    named := (text, position) :: state.named }
  return .placeholder position

/-- What a name stands for if there is no column of that name: a truth value, or the text in double
quotes. -/
def otherwise? (name : String) (token : Token) : Option Value :=
  match token.lexeme.kind, token.lexeme.text with
  | .name, '"' :: _ => some (.text name)
  | .word, _ =>
    if sameName name "true" then some (.integer 1)
    else if sameName name "false" then some (.integer 0)
    else none
  | _, _ => none

/-- The name of a column, with the table that it is looked for in or without. -/
def columnName : Reader Expr := do
  let (first, token) ← place
  if ← mark? "." then return .column ⟨some first, ← name, token.offset, none⟩
  else return .column ⟨none, first, token.offset, otherwise? first token⟩

/-- The sizes behind the name of a type. -/
def sizes : Reader Unit := do
  let size : Reader Unit := do
    let _ ← next? (meaning? signs)
    next fun token => if token.lexeme.kind = .number then some () else none
  if ← mark? "(" then
    size
    if ← mark? "," then size
    mark ")"

/-- The words of a type; `fuel` bounds their number. -/
def typeWords : Nat → Reader (List String)
  | 0 => return []
  | fuel + 1 => do
    match ← next? nameOf? with
    | some word => return word :: (← typeWords fuel)
    | none => return []

/-- The name of a type, which may be empty. -/
def typeName : Reader String := do
  let words ← typeWords (← get).tokens.length
  if !words.isEmpty then sizes
  return " ".intercalate words

/-- The conversion of a value. No type stands for numbers. -/
def conversion (inner : Grade → Reader Expr) : Reader Expr := do
  let found ← inner .any
  keyword "as"
  let type ← typeName
  return .cast (if type.isEmpty then .numeric else .ofTypeName type) found

/-- A sign in front of an expression. A plus behind a plus or a minus counts for nothing. -/
def signed (sign : Sign) : Expr → Expr
  | .unary .unchanged expr =>
    .unary sign (if sign = .inverted then .unary .unchanged expr else expr)
  | expr => .unary sign expr

/-- A value, a column, or an expression in brackets, with signs in front of it. -/
def operand (inner : Grade → Reader Expr) : Reader Expr := do
  if let some token ← next? fun t => if t.lexeme.kind = .number then some t else none then
    number token
  else if let some token ← next? fun t => if t.lexeme.kind = .variable then some t else none then
    placeholder token
  else if let some value ← next? literalOf? then return .literal value
  else if let some sign ← next? (meaning? signs) then return signed sign (← inner .operand)
  else if ← keyword? "not" then return .unary .denied (← inner .equality)
  else if ← comes [isMark "("] then bracketed (inner .any)
  else if ← comes [isKeyword "cast", isMark "("] then
    keyword "cast"
    bracketed (conversion inner)
  else columnName

/-- An expression with the operators of a grade; `depth` bounds how deep expressions lie in each
other. -/
def expressionWithin : Nat → Grade → Reader Expr
  | 0, _ => unexpected
  | depth + 1, grade =>
    let inner := expressionWithin depth
    let operand := operand inner
    let tight (left : Expr) := ranked operand left tightOperators
    let comparison := do tight (← operand)
    let equality := do
      let first ← comparison
      compared inner tight comparison first (← get).tokens.length
    match grade with
    | .operand => operand
    | .comparison => comparison
    | .equality => equality
    | .any => do ranked equality (← equality) looseOperators

/-- An expression. -/
def expression : Reader Expr := do
  expressionWithin ((← get).tokens.length + 1) .any

end Reader

end TypedQuery.Database
