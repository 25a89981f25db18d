import TypedQuery.Calendar.Reading
import TypedQuery.Decimal.Scaled
import TypedQuery.Value.Basic

/-!
# Numbers in texts

The database reads numbers out of texts: a sign, digits, a point with digits after it, and an
exponent, with blanks around them. Where a number is wanted of a value, a text may stand for one if
it spells a number and nothing else. Where a number is computed with, every text stands for one,
which is the number that it starts with, or zero.

A number that is spelled without a point and an exponent is an integer as long as it fits 64 bits.
-/

namespace TypedQuery.Database

/-- Whether a character may stand around a number. -/
def isSpace (c : Char) : Bool :=
  c = ' ' || (9 ≤ c.toNat && c.toNat ≤ 13)

/-- A number as it is spelled at the start of a text. Any part of it may be missing. -/
structure Numeral where
  negative : Bool
  whole : List Char
  /-- The digits after the point, if there is a point. -/
  places : Option (List Char)
  /-- Whether the exponent is below zero, and its digits, if there is the letter for one. -/
  exponent : Option (Bool × List Char)
  /-- The text after the number and the blanks behind it. -/
  rest : List Char

/-- A text after a sign, and whether that is a minus. -/
def signed : List Char → Bool × List Char
  | '-' :: rest => (true, rest)
  | '+' :: rest => (false, rest)
  | text => (false, text)

namespace Numeral

/-- The number at the start of a text. -/
def ofChars (text : List Char) : Numeral :=
  let (negative, unsigned) := signed (text.dropWhile isSpace)
  let whole := unsigned.takeWhile Char.isDigit
  let (places, afterPlaces) := match unsigned.dropWhile Char.isDigit with
    | '.' :: rest => (some (rest.takeWhile Char.isDigit), rest.dropWhile Char.isDigit)
    | rest => (none, rest)
  let (exponent, rest) := match afterPlaces with
    | [] => (none, [])
    | letter :: rest =>
      if letter = 'e' ∨ letter = 'E' then
        let (minus, digits) := signed rest
        (some (minus, digits.takeWhile Char.isDigit), digits.dropWhile Char.isDigit)
      else (none, afterPlaces)
  { negative, whole, places, exponent, rest := rest.dropWhile isSpace }

/-- Whether the number has digits before its exponent. -/
def hasDigits (n : Numeral) : Bool :=
  !n.whole.isEmpty || n.places.any (!·.isEmpty)

/-- Whether the exponent has digits, if there is one. -/
def exponentStated (n : Numeral) : Bool :=
  n.exponent.all (!·.2.isEmpty)

/-- Whether the number is spelled as an integer. -/
def isWhole (n : Numeral) : Bool := n.places.isNone && n.exponent.isNone

/-- Whether the text spells a number and nothing else. -/
def isAll (n : Numeral) : Bool :=
  n.rest.isEmpty && n.hasDigits && n.exponentStated

/-- Whether the text starts with a number that is not spelled as an integer. -/
def startsReal (n : Numeral) : Bool :=
  n.hasDigits && !n.isWhole && (n.exponentStated || (n.places.isSome && n.exponent.isSome))

/-- The integer of the digits before the point, if it fits 64 bits. -/
def integer? (n : Numeral) : Option Int64 :=
  let size := Calendar.digitsValue n.whole
  if n.negative then if size ≤ Nat.pow 2 63 then some (Int64.ofInt (-(size : Int))) else none
  else if size < Nat.pow 2 63 then some (Int64.ofNat size) else none

/-- The integer of the digits before the point, or the end of the range of 64 bits. -/
def clampedInteger (n : Numeral) : Int64 :=
  n.integer?.getD (if n.negative then Int64.minValue else Int64.maxValue)

/-- Digits are taken into account as long as their number is below this one. -/
def digitLimit : Nat := 1844674407370955160

/-- Takes digits into account, and gives the number with the digits that were left out. -/
def takeDigits (value : Nat) : List Char → Nat × List Char
  | [] => (value, [])
  | c :: rest =>
    if value < digitLimit then takeDigits (10 * value + (c.toNat - 48)) rest else (value, c :: rest)

/-- The size of an exponent, as far as it matters. -/
def exponentSize (digits : List Char) : Nat :=
  min (Calendar.digitsValue digits) 10000

/-- The real number that is spelled. -/
def real (n : Numeral) : Float :=
  let (significand, dropped) := takeDigits 0 n.whole
  let places := n.places.getD []
  let (significand, unread) := takeDigits significand places
  let written : Int := match n.exponent with
    | some (true, digits) => -(exponentSize digits : Int)
    | some (false, digits) => exponentSize digits
    | none => 0
  let x := Decimal.ofScaled significand
    (written + dropped.length - (places.length - unread.length : Nat))
  if n.negative then -x else x

/-- The number that a text spells, if it spells one and nothing else. -/
def value? (n : Numeral) : Option Value :=
  if !n.isAll then none
  else if n.isWhole then some ((n.integer?.map .integer).getD (.real n.real))
  else some (.real n.real)

/-- The number that a text starts with, or zero. -/
def operand (n : Numeral) : Value :=
  if n.isAll then n.value?.getD .null
  else if n.startsReal then .real n.real
  else (n.integer?.map .integer).getD (.real n.real)

end Numeral

/-- A real number as an integer, what is behind the point dropped, or the end of the range. -/
def truncated (x : Float) : Int64 :=
  if x < -9223372036854774784 then Int64.minValue
  else if 9223372036854774784 < x then Int64.maxValue
  else x.toInt64

/-- The integer that a real number is, if it is a whole one inside of the range of 64 bits. The ends
of the range do not count, as larger numbers would be taken for them. -/
def wholeNumber? (x : Float) : Option Int64 :=
  let i := truncated x
  if i.toFloat == x ∧ Int64.minValue < i ∧ i < Int64.maxValue then some i else none

/-- The order of an integer and a real number, neither of them rounded. -/
def compareWithReal (i : Int) (x : Float) : Ordering :=
  match Decimal.Binary.ofBits? x.toBits with
  | none => if x < 0 then .gt else .lt
  | some b =>
    let size : Int := if x < 0 then -(b.mantissa : Int) else b.mantissa
    match b.exponent with
    | .ofNat n => compare i (size * Nat.pow 2 n)
    | .negSucc n => compare (i * Nat.pow 2 (n + 1)) size

end TypedQuery.Database

namespace TypedQuery.Value

open Database

/-- What a value spells if it is neither a number nor null; each byte counts for a character. -/
def numeral : Value → Numeral
  | .text s => .ofChars s.toList
  | .date d => .ofChars d.chars
  | .blob bytes => .ofChars (bytes.map fun byte => Char.ofNat byte.toNat)
  | .null | .integer _ | .real _ | .boolean _ => .ofChars []

/-- A value as a number to compute with, or null. -/
def operand : Value → Value
  | .null => .null
  | .integer i => .integer i
  | .real x => .real x
  | v => v.numeral.operand

/-- A value as a real number to compute with. -/
def toReal : Value → Float
  | .integer i => i.toFloat
  | .real x => x
  | v => v.numeral.real

/-- A value as an integer to compute with. -/
def toInteger : Value → Int64
  | .integer i => i
  | .real x => truncated x
  | v => v.numeral.clampedInteger

end TypedQuery.Value
