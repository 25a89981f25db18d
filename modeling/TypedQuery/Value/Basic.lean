import TypedQuery.Calendar.Date
import TypedQuery.Decimal.Layout

/-!
# Values

The values that go into a query and come out of it. Integers have 64 bits and a sign. A value keeps
its kind: an integer and a real number of the same size are two values, and so are a date and the
text that spells it.
-/

namespace TypedQuery

/-- A value of a column, or of a placeholder. -/
inductive Value where
  | null
  | integer (i : Int64)
  | real (x : Float)
  | text (s : String)
  | boolean (b : Bool)
  | date (d : Date)
  | blob (bytes : List UInt8)
  deriving Inhabited

namespace Value

/-- Whether two values are of one kind and equal in it. Real numbers are compared as numbers, so the
two zeros are equal and what is no number differs from itself. -/
def same : Value → Value → Bool
  | .null, .null => true
  | .integer a, .integer b => a = b
  | .real a, .real b => a == b
  | .text a, .text b => a = b
  | .boolean a, .boolean b => a = b
  | .date a, .date b => a = b
  | .blob a, .blob b => a = b
  | _, _ => false

/-- Whether a value is null. -/
def isNull : Value → Bool
  | .null => true
  | _ => false

/-- The integer that a value is. -/
def int? : Value → Option Int64
  | .integer i => some i
  | _ => none

/-- The number that a value is; an integer is taken as the nearest real number. -/
def real? : Value → Option Float
  | .real x => some x
  | .integer i => some i.toFloat
  | _ => none

/-- The text that a value is. -/
def text? : Value → Option String
  | .text s => some s
  | _ => none

/-- The truth value that a value is. -/
def bool? : Value → Option Bool
  | .boolean b => some b
  | _ => none

/-- The date that a value is. -/
def date? : Value → Option Date
  | .date d => some d
  | _ => none

/-- A value for the eye. -/
def display : Value → String
  | .null => "NULL"
  | .integer i => toString i.toInt
  | .real x => String.ofList (Decimal.Layout.plain.write x)
  | .text s => s
  | .boolean b => if b then "true" else "false"
  | .date d => d.text
  | .blob bytes => s!"<{bytes.length} bytes>"

end Value

end TypedQuery
