import TypedQuery.Database.Comparison

/-!
# Operators

What operators make of values. What is computed with is read as a number first, so that a text
stands for the number that it starts with. Integers stay integers as long as their result fits 64
bits.

Bytes may be read as text. Bytes that are no text bring down the task that reads them, which is the
one thing that can go wrong here.
-/

namespace TypedQuery.Database

/-- Why a statement stops. -/
inductive Stop where
  | failure (failure : Failure)
  /-- A text that is not UTF-8 was read. -/
  | unreadable

/-- An operator between two operands. -/
inductive Operator where
  | either
  | both
  | equal
  | unequal
  /-- Equal, or both null. -/
  | same
  | different
  | less
  | atMost
  | greater
  | atLeast
  | bitAnd
  | bitOr
  | shiftLeft
  | shiftRight
  | plus
  | minus
  | times
  | divided
  | remainder
  /-- One text after the other. -/
  | joined
  deriving DecidableEq

/-- An operator in front of an operand. -/
inductive Sign where
  | negated
  | unchanged
  /-- Every binary digit is turned. -/
  | inverted
  | denied
  deriving DecidableEq

/-! ## Numbers -/

/-- A real number as a value. What is no number is null. -/
def realValue (x : Float) : Value := if x.isNaN then .null else .real x

/-- An integer as a value, if it fits 64 bits. -/
def integerValue? (i : Int) : Option Value :=
  if (Int64.ofInt i).toInt = i then some (.integer (Int64.ofInt i)) else none

/-- What is computed with integers, or nothing where it is null or does not fit 64 bits. -/
def Operator.onIntegers? (operator : Operator) (a b : Int) : Option Value :=
  match operator with
  | .plus => integerValue? (a + b)
  | .minus => integerValue? (a - b)
  | .times => integerValue? (a * b)
  | .divided => if b = 0 then some .null else integerValue? (a.tdiv b)
  | .remainder => if b = 0 then some .null else integerValue? (a.tmod b)
  | _ => none

/-- What is computed with numbers that are not both integers, or with integers whose result does not
fit 64 bits. The remainder is that of the integers next to the numbers on the side of zero. -/
def Operator.onReals (operator : Operator) (a b : Value) : Value :=
  match operator with
  | .plus => realValue (a.toReal + b.toReal)
  | .minus => realValue (a.toReal - b.toReal)
  | .times => realValue (a.toReal * b.toReal)
  | .divided => if b.toReal == 0 then .null else realValue (a.toReal / b.toReal)
  | .remainder =>
    let (m, n) := (a.toInteger.toInt, b.toInteger.toInt)
    if n = 0 then .null else realValue (Float.ofInt (m.tmod n))
  | _ => .null

/-- What is computed with two values. -/
def Operator.computed (operator : Operator) (a b : Value) : Value :=
  match a.operand, b.operand with
  | .null, _ | _, .null => .null
  | .integer i, .integer j =>
    (operator.onIntegers? i.toInt j.toInt).getD (operator.onReals (.integer i) (.integer j))
  | _, _ => operator.onReals a b

/-- An integer with its binary digits moved up, or down if the distance is below zero. -/
def moved (i : Int64) (distance : Int) : Int64 :=
  if 64 ≤ distance then 0
  else if 0 ≤ distance then Int64.ofInt (i.toInt * Nat.pow 2 distance.toNat)
  else if distance ≤ -64 then if 0 ≤ i then 0 else -1
  else Int64.ofInt (i.toInt.fdiv (Nat.pow 2 (-distance).toNat))

/-- What is computed with the binary digits of two values. -/
def Operator.onBits (operator : Operator) (a b : Value) : Value :=
  if a.isNull || b.isNull then .null
  else
    let (i, j) := (a.toInteger, b.toInteger)
    match operator with
    | .bitAnd => .integer (i &&& j)
    | .bitOr => .integer (i ||| j)
    | .shiftLeft => .integer (moved i j.toInt)
    | .shiftRight => .integer (moved i (-j.toInt))
    | _ => .null

/-! ## Comparisons -/

/-- Whether the outcome of a comparison is the one that an operator asks for. -/
def Operator.accepts : Operator → Ordering → Bool
  | .equal, o | .same, o => o = .eq
  | .unequal, o | .different, o => o ≠ .eq
  | .less, o => o = .lt
  | .atMost, o => o ≠ .gt
  | .greater, o => o = .gt
  | .atLeast, o => o ≠ .lt
  | _, _ => false

/-- A comparison with an affinity. -/
def Operator.compared (operator : Operator) (affinity : Affinity) (a b : Value) : Value :=
  let outcome := compareValues (affinity.compared a) (affinity.compared b)
  let nullSafe := operator = .same || operator = .different
  if !nullSafe && (a.isNull || b.isNull) then .null
  else ofTruth (some (operator.accepts outcome))

/-! ## Conversions -/

/-- A value in its text form. -/
def textForm : Value → Except Stop Value
  | .blob bytes =>
    match String.fromUTF8? ⟨bytes.toArray⟩ with
    | some s => .ok (.text s)
    | none => .error .unreadable
  | v => .ok (textOfNumber v)

/-- The bytes of a value in its text form. -/
def bytesOf (v : Value) : List UInt8 :=
  match v with
  | .blob bytes => bytes
  | v => (((textOfNumber v).text?).getD "").toUTF8.toList

/-- A real number as an integer if it is one that a double and an integer share without doubt. -/
def integerIfSmall (x : Float) : Value :=
  let i := truncated x
  if i.toFloat == x ∧ -2251799813685248 ≤ i ∧ i < 2251799813685248 then .integer i else .real x

/-- What a text or bytes are as a number. -/
def numberForm (n : Numeral) : Value :=
  if n.startsReal then integerIfSmall n.real
  else (n.integer?.map .integer).getD (integerIfSmall n.real)

/-- A value converted to a kind, which loses what does not fit it. -/
def Affinity.cast (affinity : Affinity) (v : Value) : Except Stop Value :=
  match affinity, v with
  | _, .null => .ok .null
  | .text, v => textForm v
  | .any, v => .ok (.blob (bytesOf v))
  | .integer, v => .ok (.integer v.toInteger)
  | .real, v => .ok (.real v.toReal)
  | .numeric, .integer i => .ok (.integer i)
  | .numeric, .real x => .ok (.real x)
  | .numeric, v => .ok (numberForm v.numeral)

/-- One text after another. Bytes are taken for texts. -/
def joinedValues (a b : Value) : Except Stop Value :=
  if a.isNull || b.isNull then .ok .null else textForm (.blob (bytesOf a ++ bytesOf b))

/-! ## Operators at work -/

/-- The value of a sign in front of a value. -/
def Sign.applied (sign : Sign) (v : Value) : Value :=
  match sign with
  | .negated => Operator.minus.computed (.integer 0) v
  | .unchanged => v
  | .inverted => if v.isNull then .null else .integer (~~~v.toInteger)
  | .denied => ofTruth ((truth v).map not)

/-- The value of an operator between two values that are compared with an affinity. -/
def Operator.applied (operator : Operator) (affinity : Affinity) (a b : Value) :
    Except Stop Value :=
  match operator with
  | .either => .ok (ofTruth (eitherTrue (truth a) (truth b)))
  | .both => .ok (ofTruth (bothTrue (truth a) (truth b)))
  | .equal | .unequal | .same | .different | .less | .atMost | .greater | .atLeast =>
    .ok (operator.compared affinity a b)
  | .bitAnd | .bitOr | .shiftLeft | .shiftRight => .ok (operator.onBits a b)
  | .plus | .minus | .times | .divided | .remainder => .ok (operator.computed a b)
  | .joined => joinedValues a b

/-- Whether a value is equal to one of others. -/
def amongValues (affinity : Affinity) (v : Value) (others : List Value) : Value :=
  let answers := others.map fun other => truth (Operator.equal.compared affinity v other)
  ofTruth (answers.foldl eitherTrue (some false))

end TypedQuery.Database
