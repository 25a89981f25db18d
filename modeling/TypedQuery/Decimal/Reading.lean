import TypedQuery.Calendar.Reading

/-!
# Reading decimal numbers

The double nearest to a decimal numeral. Numbers beyond the range of doubles are infinite, and those
too small for it are zero.
-/

namespace TypedQuery.Decimal

/-- The double nearest to an integer times a power of ten. Exponents far outside the range of
doubles are decided by the size of the number, so that no large power is ever computed. -/
def nearest (digits : Nat) (exponent : Int) : Float :=
  let size : Int := (Nat.toDigits 10 digits).length + exponent
  if digits = 0 ∨ size < -330 then 0
  else if 310 < size then 1 / 0
  else
    match exponent with
    | .ofNat n => Float.ofScientific digits false n
    | .negSucc n => Float.ofScientific digits true (n + 1)

/-- The exponent at the end of a numeral: a letter, a sign that may be missing, and digits. -/
def numeralExponent : List Char → Int
  | _ :: '-' :: digits => -(Calendar.digitsValue digits : Int)
  | _ :: '+' :: digits => Calendar.digitsValue digits
  | _ :: digits => Calendar.digitsValue digits
  | [] => 0

/-- The number of a numeral without a sign: digits, a point with digits after it and an exponent,
the last two of which may be missing. -/
def ofNumeral (text : List Char) : Float :=
  let whole := text.takeWhile Char.isDigit
  let (places, rest) :=
    match text.drop whole.length with
    | '.' :: after => (after.takeWhile Char.isDigit, after.dropWhile Char.isDigit)
    | after => ([], after)
  nearest (Calendar.digitsValue (whole ++ places)) (numeralExponent rest - places.length)

end TypedQuery.Decimal
