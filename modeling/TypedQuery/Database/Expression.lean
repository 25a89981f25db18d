import TypedQuery.Database.Mistake
import TypedQuery.Database.Operator
import TypedQuery.Text.Hexadecimal

/-!
# Expressions

Expressions over the columns of a row and the values bound to a statement. An expression is first
resolved: its names are replaced by what they stand for among the columns of a table and the results
of a query. Then it has a value for each row.
-/

namespace TypedQuery.Database

/-- A column as a statement names it. -/
structure ColumnName where
  table : Option String
  name : String
  /-- Where it stands in the statement. -/
  offset : Nat
  /-- What the name stands for if there is no such column. -/
  otherwise : Option Value := none

/-- An expression. -/
inductive Expr where
  | literal (value : Value)
  /-- A number as it is spelled, which stands at an offset in the statement. -/
  | number (spelling : List Char) (offset : Nat)
  /-- The value bound to a placeholder, the first one having position zero. -/
  | placeholder (position : Nat)
  | column (name : ColumnName)
  /-- The number of the row. -/
  | rowNumber
  | unary (sign : Sign) (operand : Expr)
  | binary (operator : Operator) (left right : Expr)
  /-- Whether an expression has a truth value. -/
  | hasTruth (operand : Expr) (wanted : Bool)
  /-- A value converted to a kind. -/
  | cast (affinity : Affinity) (operand : Expr)
  /-- Whether a value is equal to one of others. -/
  | among (operand : Expr) (others : List Expr)

/-! ## Numbers as they are written -/

/-- The digits of a hexadecimal number, without the zeros in front of them. -/
def hexDigits? (spelling : List Char) : Option (List Char) :=
  match spelling with
  | '0' :: 'x' :: digits | '0' :: 'X' :: digits => some (digits.dropWhile (· = '0'))
  | _ => none

/-- The number that a literal spells, with a minus in front of it or without: an integer if it is
written as one and fits 64 bits. -/
def numberOfLiteral (negative : Bool) (spelling : List Char) : Value :=
  match hexDigits? spelling with
  | some digits =>
    let bits := Int64.ofNat (Text.valueOfDigits 16 digits)
    .integer (if negative then -bits else bits)
  | none =>
    let numeral := { Numeral.ofChars spelling with negative }
    numeral.value?.getD (.real numeral.real)

/-- Whether a hexadecimal number does not fit 64 bits. The lowest integer cannot be written as a
negative one. -/
def exceedsHex (negative : Bool) (spelling : List Char) : Bool :=
  match hexDigits? spelling with
  | some digits =>
    digits.length > 16 || (negative && Text.valueOfDigits 16 digits = Nat.pow 2 63)
  | none => false

/-! ## Evaluation -/

/-- What is known of the row that an expression is about. -/
structure Scope where
  columns : List StoredColumn
  cells : List Value
  number : Int64 := 0

/-- The scope outside of any table. -/
def Scope.empty : Scope := ⟨[], [], 0⟩

/-- The column of a name, and its value. -/
def Scope.column? (scope : Scope) (name : String) : Option (StoredColumn × Value) :=
  (scope.columns.zip scope.cells).find? fun (column, _) => sameName column.name name

/-- The kind of value that an expression prefers; only columns and conversions do. -/
def Expr.affinity (scope : Scope) : Expr → Option Affinity
  | .column c => (scope.column? c.name).map (·.1.affinity)
  | .rowNumber => some .integer
  | .cast affinity _ => some affinity
  | _ => none

/-- The value of an expression for a row and the values bound to the statement. -/
def Expr.eval (scope : Scope) (params : List Value) : Expr → Except Stop Value
  | .literal value => .ok value
  | .number spelling _ => .ok (numberOfLiteral false spelling)
  | .placeholder position => .ok (params[position]?.getD .null)
  | .column c => .ok (((scope.column? c.name).map (·.2)).getD .null)
  | .rowNumber => .ok (.integer scope.number)
  | .unary .negated (.number spelling _) => .ok (numberOfLiteral true spelling)
  | .unary sign operand => do return sign.applied (← operand.eval scope params)
  | .binary operator left right => do
    let a ← left.eval scope params
    let b ← right.eval scope params
    operator.applied (comparisonAffinity (left.affinity scope) (right.affinity scope)) a b
  | .hasTruth operand wanted => do
    return ofTruth (some (truth (← operand.eval scope params) = some wanted))
  | .cast affinity operand => do affinity.cast (← operand.eval scope params)
  | .among operand others => do
    let v ← operand.eval scope params
    let values ← evalAll scope params others
    return amongValues ((operand.affinity scope).getD .any) v values
where
  /-- The values of several expressions. -/
  evalAll (scope : Scope) (params : List Value) : List Expr → Except Stop (List Value)
    | [] => .ok []
    | e :: rest => do
      let v ← e.eval scope params
      return v :: (← evalAll scope params rest)

/-- Whether an expression is the same for all rows. -/
def Expr.isConstant : Expr → Bool
  | .literal _ | .number _ _ | .placeholder _ => true
  | .column _ | .rowNumber => false
  | .unary _ operand | .hasTruth operand _ | .cast _ operand => operand.isConstant
  | .binary _ left right => left.isConstant && right.isConstant
  | .among operand others => operand.isConstant && allConstant others
where
  /-- Whether several expressions are the same for all rows. -/
  allConstant : List Expr → Bool
    | [] => true
    | e :: rest => e.isConstant && allConstant rest

/-! ## Names -/

/-- What the names in an expression may stand for. -/
structure Names where
  /-- The name that the columns of the table go by, if there is a table. -/
  table : Option String := none
  columns : List StoredColumn := []
  /-- The names of results, with what they stand for. -/
  results : List (String × Expr) := []

/-- Whether a name is one of the names of the row number. -/
def isRowNumber (name : String) : Bool :=
  ["rowid", "oid", "_rowid_"].any (sameName name)

/-- What a name stands for: a column, the row number, a result, or something else that the name
brings with it. -/
def Names.find? (names : Names) (c : ColumnName) : Option Expr :=
  let own := c.table.all fun table => names.table.any (sameName table)
  if own && names.columns.any (sameName ·.name c.name) then some (.column c)
  else if own && names.table.isSome && isRowNumber c.name then some .rowNumber
  else if c.table.isSome then none
  else
    (names.results.find? (sameName ·.1 c.name)).map (·.2) <|> c.otherwise.map .literal

/-- An expression with its names replaced by what they stand for. -/
def Expr.resolve (names : Names) : Expr → Except Mistake Expr
  | .column c =>
    match names.find? c with
    | some found => .ok found
    | none => .error (.unknownColumn c.table c.name c.offset)
  | .unary sign operand => do return .unary sign (← operand.resolve names)
  | .binary operator left right => do
    return .binary operator (← left.resolve names) (← right.resolve names)
  | .hasTruth operand wanted => do return .hasTruth (← operand.resolve names) wanted
  | .cast affinity operand => do return .cast affinity (← operand.resolve names)
  | .among operand others => do
    return .among (← operand.resolve names) (← resolveAll names others)
  | e => .ok e
where
  /-- Several expressions with their names replaced. -/
  resolveAll (names : Names) : List Expr → Except Mistake (List Expr)
    | [] => .ok []
    | e :: rest => do
      let first ← e.resolve names
      return first :: (← resolveAll names rest)

/-- The last number in an expression that does not fit 64 bits. -/
def Expr.tooBig? : Expr → Option Mistake
  | .number spelling offset =>
    if exceedsHex false spelling then some (.numberTooBig false spelling offset) else none
  | .unary .negated (.number spelling offset) =>
    if exceedsHex true spelling then some (.numberTooBig true spelling offset) else none
  | .unary _ operand | .cast _ operand | .hasTruth operand _ => operand.tooBig?
  | .binary _ left right => right.tooBig?.or left.tooBig?
  | .among operand others => (lastTooBig? others).or operand.tooBig?
  | .literal _ | .placeholder _ | .column _ | .rowNumber => none
where
  /-- The last number in several expressions that does not fit 64 bits. -/
  lastTooBig? : List Expr → Option Mistake
    | [] => none
    | e :: rest => (lastTooBig? rest).or e.tooBig?

end TypedQuery.Database
