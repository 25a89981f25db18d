/-!
# The shortest decimal of a floating-point number

A finite positive double is `m · 2 ^ q` for natural `m` and integer `q`. Every real number closer to
it than to its neighbours rounds to it when read; the two midpoints do so exactly if `m` is even. So
the decimals that read back are those of an interval, and among them the ones with the fewest digits
lie on the coarsest grid of powers of ten that has a point in the interval. On that grid the point
below the number and the one above are the only candidates, and the nearer of the two is taken; for
a number halfway between them, who writes it says which.

Everything is computed in natural numbers: a comparison of `a · 10 ^ k` with `b · 2 ^ q` is one of
two products.
-/

namespace TypedQuery.Decimal

/-- A finite positive double: `mantissa · 2 ^ exponent`. -/
structure Binary where
  mantissa : Nat
  exponent : Int
  /-- Whether the double below is only half as far away as the one above, as at a power of two. -/
  nearBelow : Bool

/-- The finite double of a bit pattern, its sign dropped; the patterns without a finite number are
the infinities and those that are no number. -/
def Binary.ofBits? (bits : UInt64) : Option Binary :=
  let fraction := (bits &&& 0x000FFFFFFFFFFFFF).toNat
  let field := ((bits >>> 52) &&& 0x7FF).toNat
  if field = 0x7FF then none
  else if field = 0 then some ⟨fraction, -1074, false⟩
  else some ⟨fraction + Nat.pow 2 52, (field : Int) - 1075, fraction = 0 && field > 1⟩

/-- A quotient of natural numbers, kept as its two parts. -/
structure Ratio where
  numerator : Nat
  denominator : Nat

/-- A multiple of a power of two as a quotient. -/
def Ratio.ofBinary (multiple : Nat) (exponent : Int) : Ratio :=
  match exponent with
  | .ofNat n => ⟨multiple * Nat.pow 2 n, 1⟩
  | .negSucc n => ⟨multiple, Nat.pow 2 (n + 1)⟩

/-- A multiple of a power of ten as a quotient. -/
def Ratio.ofDecimal (multiple : Nat) (exponent : Int) : Ratio :=
  match exponent with
  | .ofNat n => ⟨multiple * Nat.pow 10 n, 1⟩
  | .negSucc n => ⟨multiple, Nat.pow 10 (n + 1)⟩

/-- Whether one quotient is less than another. -/
def Ratio.less (a b : Ratio) : Bool :=
  a.numerator * b.denominator < b.numerator * a.denominator

/-- The interval of numbers that round to a double, in quarters of its last place. -/
structure Interval where
  low : Ratio
  high : Ratio
  /-- Whether the ends belong to it. -/
  closed : Bool

/-- The numbers that round to a double. -/
def Binary.interval (x : Binary) : Interval where
  low := .ofBinary (4 * x.mantissa - if x.nearBelow then 1 else 2) (x.exponent - 2)
  high := .ofBinary (4 * x.mantissa + 2) (x.exponent - 2)
  closed := x.mantissa % 2 = 0

/-- Whether a number rounds to the double of the interval. -/
def Interval.contains (interval : Interval) (a : Ratio) : Bool :=
  if interval.closed then !a.less interval.low && !interval.high.less a
  else interval.low.less a && a.less interval.high

/-- A decimal number: `digits · 10 ^ exponent`. -/
structure Digits where
  digits : Nat
  exponent : Int
  deriving DecidableEq

/-- The largest multiple of a power of ten that is not above a number. -/
def floorOn (exponent : Int) (a : Ratio) : Nat :=
  match exponent with
  | .ofNat n => a.numerator / (a.denominator * Nat.pow 10 n)
  | .negSucc n => a.numerator * Nat.pow 10 (n + 1) / a.denominator

/-- Which of the two points of a grid is taken for a number halfway between them. -/
inductive Tie where
  /-- The one above. -/
  | up
  /-- The one whose last digit is even. -/
  | toEven
  deriving DecidableEq

/-- Whether a number halfway between a multiple and the next one goes to the next one. -/
def Tie.takesNext (tie : Tie) (multiple : Nat) : Bool :=
  match tie with
  | .up => true
  | .toEven => multiple % 2 = 1

/-- The point of a grid nearest to a double among those that read back, if there is one. Zero is
never taken, as it has no digits. -/
def Binary.onGrid? (x : Binary) (tie : Tie) (exponent : Int) : Option Digits :=
  let value := Ratio.ofBinary x.mantissa x.exponent
  let below := floorOn exponent value
  let fits (n : Nat) : Bool := n ≠ 0 && x.interval.contains (.ofDecimal n exponent)
  match fits below, fits (below + 1) with
  | true, false => some ⟨below, exponent⟩
  | false, true => some ⟨below + 1, exponent⟩
  | false, false => none
  | true, true =>
    -- twice the number against the sum of its two neighbours on the grid
    let middle := Ratio.ofDecimal (2 * below + 1) exponent
    let twice := Ratio.ofBinary (2 * x.mantissa) x.exponent
    let next := middle.less twice || (!twice.less middle && tie.takesNext below)
    some ⟨if next then below + 1 else below, exponent⟩

/-- The exponents of the grids from the coarsest that a double can need to the finest. -/
def grids : List Int :=
  (List.range 652).map fun (n : Nat) => 309 - (n : Int)

/-- The decimal with the fewest digits that reads back as a double, which is not zero. -/
def Binary.shortest (tie : Tie) (x : Binary) : Digits :=
  (grids.findSome? (x.onGrid? tie)).getD ⟨x.mantissa, x.exponent⟩

end TypedQuery.Decimal
