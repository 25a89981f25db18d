import TypedQuery.Decimal.Scaled

/-!
# Written floating-point numbers

Three layouts of numbers. In messages and listings a number is always written out, and a whole
number has no point. In JSON a whole number keeps a zero after its point, so that it is not taken
for an integer, and very large and very small numbers have an exponent; what is not finite is null.
Both write the fewest digits that read back. The database writes at most fifteen digits when a
number is put into a column of texts.
-/

namespace TypedQuery.Decimal

/-- How a number is laid out. -/
structure Layout where
  /-- The decimal that is written for a number, which is not zero. -/
  decimal : Binary → Digits
  /-- Whether a number whose first digit stands for `10 ^ e` is written without an exponent. -/
  positional : Int → Bool
  /-- What follows a whole number. -/
  wholeEnd : List Char
  /-- What follows a single digit before an exponent. -/
  digitEnd : List Char := []
  /-- The least number of digits of an exponent. -/
  exponentWidth : Nat := 1
  /-- Whether the sign of a zero is written. -/
  signedZero : Bool := true
  notANumber : List Char
  infinite : List Char
  minusInfinite : List Char

/-- Plain numbers: written out at any length, the larger of two equally near decimals. -/
def Layout.plain : Layout where
  decimal := Binary.shortest .up
  positional _ := true
  wholeEnd := []
  notANumber := ['N', 'a', 'N']
  infinite := ['i', 'n', 'f']
  minusInfinite := ['-', 'i', 'n', 'f']

/-- Numbers in JSON: written out from a hundred-thousandth up to ten quadrillions, the even one of
two equally near decimals. -/
def Layout.json : Layout where
  decimal := Binary.shortest .toEven
  positional exponent := -5 ≤ exponent && exponent < 16
  wholeEnd := ['.', '0']
  notANumber := ['n', 'u', 'l', 'l']
  infinite := ['n', 'u', 'l', 'l']
  minusInfinite := ['n', 'u', 'l', 'l']

/-- Numbers as texts of the database: fifteen digits, written out from a ten-thousandth up to a
quadrillion. -/
def Layout.database : Layout where
  decimal := Binary.rounded 15
  positional exponent := -4 ≤ exponent && exponent < 15
  wholeEnd := ['.', '0']
  digitEnd := ['.', '0']
  exponentWidth := 2
  signedZero := false
  notANumber := []
  infinite := ['I', 'n', 'f']
  minusInfinite := ['-', 'I', 'n', 'f']

/-- A number without the zeros at its end, of which there are at most `count`, and their number. -/
def stripZeros (n : Nat) : Nat → Nat × Nat
  | 0 => (n, 0)
  | count + 1 =>
    if n % 10 = 0 && n ≠ 0 then
      let (stripped, zeros) := stripZeros (n / 10) count
      (stripped, zeros + 1)
    else (n, 0)

/-- Digits written out, the last one standing for a power of ten. -/
def Layout.writePositional (layout : Layout) (digits : List Char) (exponent : Int) : List Char :=
  match exponent with
  | .ofNat n => digits ++ List.replicate n '0' ++ layout.wholeEnd
  | .negSucc n =>
    let places := n + 1
    if places < digits.length then
      digits.take (digits.length - places) ++ '.' :: digits.drop (digits.length - places)
    else '0' :: '.' :: List.replicate (places - digits.length) '0' ++ digits

/-- Digits with an exponent: one digit before the point, and a sign before the exponent. -/
def Layout.writeScientific (layout : Layout) (digits : List Char) (exponent : Int) : List Char :=
  let leading := exponent + digits.length - 1
  let rest := digits.drop 1
  let size := Nat.toDigits 10 leading.natAbs
  digits.take 1 ++ (if rest.isEmpty then layout.digitEnd else '.' :: rest) ++
    'e' :: (if leading < 0 then '-' else '+') ::
      (List.replicate (layout.exponentWidth - size.length) '0' ++ size)

/-- A finite number that is not negative. -/
def Layout.writeFinite (layout : Layout) (x : Binary) : List Char :=
  if x.mantissa = 0 then '0' :: layout.wholeEnd
  else
    let decimal := layout.decimal x
    let (stripped, zeros) := stripZeros decimal.digits 20
    let digits := Nat.toDigits 10 stripped
    let exponent := decimal.exponent + zeros
    if layout.positional (exponent + digits.length - 1) then
      layout.writePositional digits exponent
    else layout.writeScientific digits exponent

/-- The number of a bit pattern as a layout writes it. -/
def Layout.writeBits (layout : Layout) (bits : UInt64) : List Char :=
  let negative := bits >>> 63 = 1
  match Binary.ofBits? bits with
  | some x =>
    let signed := negative && (layout.signedZero || x.mantissa ≠ 0)
    if signed then '-' :: layout.writeFinite x else layout.writeFinite x
  | none =>
    if bits &&& 0x000FFFFFFFFFFFFF ≠ 0 then layout.notANumber
    else if negative then layout.minusInfinite else layout.infinite

/-- A floating-point number as a layout writes it. -/
def Layout.write (layout : Layout) (x : Float) : List Char :=
  layout.writeBits x.toBits

end TypedQuery.Decimal
