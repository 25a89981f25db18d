/-!
# Hexadecimal digits
-/

namespace TypedQuery.Text

/-- The value of a hexadecimal digit. -/
def hexValue? (c : Char) : Option Nat :=
  if '0' ≤ c ∧ c ≤ '9' then some (c.toNat - 48)
  else if 'a' ≤ c ∧ c ≤ 'f' then some (c.toNat - 87)
  else if 'A' ≤ c ∧ c ≤ 'F' then some (c.toNat - 55)
  else none

/-- Whether a character is a hexadecimal digit. -/
def isHexDigit (c : Char) : Bool := (hexValue? c).isSome

/-- The value of digits to a base. -/
def valueOfDigits (base : Nat) (digits : List Char) : Nat :=
  digits.foldl (fun value c => base * value + (hexValue? c).getD 0) 0

/-- The bytes that pairs of hexadecimal digits spell; a digit without a partner is dropped. -/
def bytesOfHex : List Char → List UInt8
  | a :: b :: rest => UInt8.ofNat (valueOfDigits 16 [a, b]) :: bytesOfHex rest
  | _ => []

end TypedQuery.Text
