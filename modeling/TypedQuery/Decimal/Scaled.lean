import TypedQuery.Decimal.Shortest

/-!
# Numbers of sixty-four binary digits

The database turns decimals into doubles, and doubles into decimals, by multiplying with powers of
ten. It goes in steps, by the hundreds, the tens and the ones of the exponent, and keeps sixty-four
binary digits after each. So the outcome may miss the nearest double, or the nearest decimal, by its
last place, and which one it is follows from the steps.

A single rounding is to the nearest number, and takes the even one of two that are equally near:
`roundedQuotient_bounds` says that it is off by half a unit at most.
-/

namespace TypedQuery.Decimal

/-- A quotient rounded to the nearest integer, a half to the even one. -/
def roundedQuotient (numerator denominator : Nat) : Nat :=
  let below := numerator / denominator
  let twice := 2 * (numerator % denominator)
  if twice < denominator ∨ (twice = denominator ∧ below % 2 = 0) then below else below + 1

/-- A rounded quotient is no further from the quotient than half of one. -/
theorem roundedQuotient_bounds {numerator denominator : Nat} (positive : 0 < denominator) :
    2 * numerator ≤ 2 * roundedQuotient numerator denominator * denominator + denominator ∧
      2 * roundedQuotient numerator denominator * denominator ≤ 2 * numerator + denominator := by
  have split := Nat.div_add_mod numerator denominator
  have small := Nat.mod_lt numerator positive
  unfold roundedQuotient
  generalize numerator / denominator = below at *
  generalize numerator % denominator = rest at *
  have product : 2 * below * denominator = 2 * (denominator * below) := by
    rw [Nat.mul_assoc, Nat.mul_comm below]
  have next : 2 * (below + 1) * denominator = 2 * (denominator * below) + 2 * denominator := by
    rw [Nat.mul_add, Nat.add_mul, product]
  dsimp only
  split <;> omega

/-- The number of binary digits of a number. -/
def binaryLength (n : Nat) : Nat := if n = 0 then 0 else n.log2 + 1

/-- A number that is not negative: `mantissa · 2 ^ exponent`. -/
structure Scaled where
  mantissa : Nat
  exponent : Int

namespace Scaled

/-- The nearest number of sixty-four binary digits. -/
def rounded (x : Scaled) : Scaled :=
  let surplus := binaryLength x.mantissa - 64
  ⟨roundedQuotient x.mantissa (Nat.pow 2 surplus), x.exponent + surplus⟩

/-- The product of two numbers, rounded. -/
def times (x y : Scaled) : Scaled :=
  rounded ⟨x.mantissa * y.mantissa, x.exponent + y.exponent⟩

/-- A power of ten, rounded. -/
def tenTo (exponent : Int) : Scaled :=
  match exponent with
  | .ofNat n => rounded ⟨Nat.pow 10 n, 0⟩
  | .negSucc n =>
    let places := binaryLength (Nat.pow 10 (n + 1)) + 63
    ⟨roundedQuotient (Nat.pow 2 places) (Nat.pow 10 (n + 1)), -(places : Int)⟩

/-- Whether one number is less than another. -/
def less (x y : Scaled) : Bool :=
  (Ratio.ofBinary x.mantissa x.exponent).less (.ofBinary y.mantissa y.exponent)

/-- A number multiplied with a factor some times over. -/
def timesPower (x factor : Scaled) : Nat → Scaled
  | 0 => x
  | n + 1 => timesPower (x.times factor) factor n

/-- A number multiplied with a power of ten, step by step. -/
def shifted (x : Scaled) (exponent : Int) : Scaled :=
  let sign : Int := if exponent < 0 then -1 else 1
  let n := exponent.natAbs
  ((x.timesPower (tenTo (sign * 100)) (n / 100)).timesPower (tenTo (sign * 10)) (n % 100 / 10))
    |>.timesPower (tenTo sign) (n % 10)

/-- The largest double. -/
def largest : Scaled := ⟨Nat.pow 2 53 - 1, 971⟩

/-- The nearest double; what is larger than every double is infinite. -/
def toFloat (x : Scaled) : Float :=
  if largest.less x then 1 / 0
  else
    let place : Int := max (x.exponent + binaryLength x.mantissa - 53) (-1074)
    let multiple := match place - x.exponent with
      | .ofNat n => roundedQuotient x.mantissa (Nat.pow 2 n)
      | .negSucc n => x.mantissa * Nat.pow 2 (n + 1)
    (Float.ofNat multiple).scaleB place

end Scaled

/-! ## From decimals -/

/-- The numbers below this one stay in sixty-four binary digits when a decimal digit is added. -/
def roomForDigit : Nat := 1844674407370955161

/-- Digits with zeros taken over from a power of ten as long as there is room for them, and what is
left of its exponent. -/
def widened (digits : Nat) : Nat → Nat × Nat
  | 0 => (digits, 0)
  | n + 1 => if digits < roomForDigit then widened (10 * digits) n else (digits, n + 1)

/-- Digits with the zeros at their end given to a power of a tenth, and what is left of its
exponent. -/
def narrowed (digits : Nat) : Nat → Nat × Nat
  | 0 => (digits, 0)
  | n + 1 => if digits % 10 = 0 then narrowed (digits / 10) n else (digits, n + 1)

/-- The double for digits, which fit sixty-four binary digits, times a power of ten. -/
def ofScaled (digits : Nat) (exponent : Int) : Float :=
  if digits = 0 then 0
  else
    let (digits, exponent) : Nat × Int := match exponent with
      | .ofNat n => let (digits, rest) := widened digits n; (digits, rest)
      | .negSucc n => let (digits, rest) := narrowed digits (n + 1); (digits, -(rest : Int))
    (Scaled.shifted ⟨digits, 0⟩ exponent).toFloat

/-! ## To decimals -/

/-- A number multiplied with a power of ten as long as a test says so, with the exponent that makes
up for it; `fuel` bounds the number of steps. -/
def shiftedWhile (test : Scaled → Bool) (power : Int) : Nat → Scaled × Int → Scaled × Int
  | 0, state => state
  | fuel + 1, (x, exponent) =>
    if test x then
      shiftedWhile test power fuel (x.times (.tenTo power), exponent - power)
    else (x, exponent)

/-- A number brought in between `10 ^ 17` and `10 ^ 19`, with the exponent of the power of ten that
makes up for it. No step is taken more than sixteen times for a double. -/
def normalized (x : Scaled) : Scaled × Int :=
  let atLeast (limit : Int) (y : Scaled) : Bool := !y.less (.tenTo limit)
  let below (limit : Int) (y : Scaled) : Bool := y.less (.tenTo limit)
  if atLeast 19 x then
    (x, 0) |> shiftedWhile (atLeast 119) (-100) 16 |> shiftedWhile (atLeast 29) (-10) 16
      |> shiftedWhile (atLeast 19) (-1) 16
  else
    (x, 0) |> shiftedWhile (below (-97)) 100 16 |> shiftedWhile (below 7) 10 16
      |> shiftedWhile (below 17) 1 16

/-- A double, which is not zero, with some number of significant digits. The digit after them says
whether the last one is raised. -/
def Binary.rounded (count : Nat) (x : Binary) : Digits :=
  let (scaled, exponent) := normalized ⟨x.mantissa, x.exponent⟩
  let all := floorOn 0 (.ofBinary scaled.mantissa scaled.exponent)
  let surplus := (Nat.toDigits 10 all).length - count
  let kept := all / Nat.pow 10 surplus
  let next := all / Nat.pow 10 (surplus - 1) % 10
  ⟨if 0 < surplus ∧ 5 ≤ next then kept + 1 else kept, exponent + surplus⟩

end TypedQuery.Decimal
