import TypedQuery.Database.Catalog

/-!
# Truth and order of values

Truth has three values, and null is the one between true and false. All values are in one order, in
which numbers are compared by size, however they are stored. Before two values are compared, an
operand that prefers a kind of value has both converted to it.
-/

namespace TypedQuery.Database

/-! ## Truth -/

/-- The truth of a value: a number other than zero is true, null is neither. -/
def truth (v : Value) : Option Bool :=
  match v with
  | .null => none
  | .integer i => some (i ≠ 0)
  | v => some (v.toReal != 0)

/-- A truth value as a value. -/
def ofTruth : Option Bool → Value
  | some b => .integer (if b then 1 else 0)
  | none => .null

/-- True if one side is, false if both are. -/
def eitherTrue : Option Bool → Option Bool → Option Bool
  | some true, _ | _, some true => some true
  | some false, some false => some false
  | _, _ => none

/-- True if both sides are, false if one is. -/
def bothTrue (a b : Option Bool) : Option Bool :=
  (eitherTrue (a.map not) (b.map not)).map not

/-! ## Order -/

/-- The place of a value's kind in the order of all values. -/
def kindRank : Value → Nat
  | .null => 0
  | .integer _ | .real _ | .boolean _ => 1
  | .text _ | .date _ => 2
  | .blob _ => 3

/-- The order of values: null, then numbers by size, then texts by characters, then bytes. -/
def compareValues (a b : Value) : Ordering :=
  match a, b with
  | .integer i, .integer j => compare i.toInt j.toInt
  | .integer i, .real y => compareWithReal i.toInt y
  | .real x, .integer j => (compareWithReal j.toInt x).swap
  | .real x, .real y => if x < y then .lt else if y < x then .gt else .eq
  | .text s, .text t => if s < t then .lt else if s = t then .eq else .gt
  | .blob s, .blob t => if s < t then .lt else if s = t then .eq else .gt
  | a, b => compare (kindRank a) (kindRank b)

/-! ## Kinds of values -/

/-- Whether an affinity is for numbers. -/
def Affinity.isForNumbers (affinity : Affinity) : Bool :=
  affinity = .integer || affinity = .real || affinity = .numeric

/-- The affinity that two operands are compared with. Where both have one, numbers come first, and
texts and bytes are compared as they are. -/
def comparisonAffinity : Option Affinity → Option Affinity → Affinity
  | some a, some b => if a.isForNumbers || b.isForNumbers then .numeric else .any
  | some a, none | none, some a => a
  | none, none => .any

/-- A value on one side of a comparison with an affinity. -/
def Affinity.compared (affinity : Affinity) (v : Value) : Value :=
  if affinity.isForNumbers then numberIfSpelled v
  else if affinity = .text then textOfNumber v
  else v

end TypedQuery.Database
