import TypedQuery.Json.Tree
import TypedQuery.Json.Writing
import TypedQuery.Value.Basic

/-!
# Values in JSON

A value is written without its kind: integers and real numbers as numbers, texts and dates as
strings, bytes as an array of numbers. Reading has to find the kind again and takes the first that
fits, in the order null, integer, real number, text, truth value and bytes. A date is therefore read
as the text that it was written as.
-/

namespace TypedQuery

/-- An integer in decimal digits. -/
def intChars (i : Int) : List Char :=
  match i with
  | .ofNat n => Nat.toDigits 10 n
  | .negSucc n => '-' :: Nat.toDigits 10 (n + 1)

namespace Value

/-- A value in JSON. -/
def jsonChars : Value → List Char
  | .null => Json.writeNull
  | .integer i => intChars i.toInt
  | .real x => Decimal.Layout.json.write x
  | .text s => Json.writeText s.toList
  | .boolean b => Json.writeBool b
  | .date d => Json.writeText d.chars
  | .blob bytes => Json.writeArray (bytes.map fun byte => Nat.toDigits 10 byte.toNat)

/-- A value in JSON. -/
def toJson (value : Value) : String :=
  String.ofList value.jsonChars

/-- A number as an integer if it is one of 64 bits with a sign, else as a real number. -/
def ofNumber : Json.Number → Value
  | .natural n => if n < Nat.pow 2 63 then .integer (.ofNat n) else .real n.toUInt64.toFloat
  | .negative i => .integer (.ofInt i)
  | .real x => .real x

/-- The bytes that the items of an array are. -/
def bytes? : Json.Items → Option (List UInt8)
  | .done => some []
  | .item (.number (.ok (.natural n))) rest =>
    if n < 256 then (bytes? rest).map (n.toUInt8 :: ·) else none
  | _ => none

/-- The value of a JSON value without faults, if it has one. -/
def ofTree? : Json → Option Value
  | .null => some .null
  | .number (.ok n) => some (ofNumber n)
  | .text (.ok s) => some (.text (String.ofList s))
  | .bool b => some (.boolean b)
  | .array items => (bytes? items).map .blob
  | _ => none

/-- Reads a value from JSON. The whole value is taken in before its kind is looked for. -/
def readJson (json : Json) : Except Json.Fault Value :=
  match json.fault? Json.depthLimit with
  | some fault => .error fault
  | none =>
    match ofTree? json with
    | some value => .ok value
    | none => .error .shape

/-- Reads a value from a JSON text. -/
def ofJson (text : String) : Except Json.Fault Value :=
  Json.readWhole readJson text

end Value

end TypedQuery
