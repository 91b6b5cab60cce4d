import PreparedFilter.Binary64

/-!
# The shortest decimal of a number

`Binary64.shortest` gives the decimal with the fewest digits that reads back as the same number, and
among those the nearest. All arithmetic is exact, on natural numbers.

A finite positive number stands for the interval of reals that round to it; its ends belong to it
exactly when the mantissa is even. On the grid of decimals with one digit, then two, and so on up to
seventeen, the two neighbours of the number are tried: if any point of a grid lies in the interval,
one of these two does, and seventeen digits always suffice.
-/

namespace PreparedFilter

/-- The decimal `coefficient * 10 ^ exponent`. -/
structure Decimal where
  coefficient : Nat
  exponent : Int
  deriving DecidableEq

namespace Decimal

/-- Moves trailing zeros of the coefficient into the exponent. -/
def normalize (d : Decimal) : Decimal :=
  if _h : d.coefficient ≠ 0 ∧ d.coefficient % 10 = 0 then
    normalize ⟨d.coefficient / 10, d.exponent + 1⟩
  else d
termination_by d.coefficient
decreasing_by exact Nat.div_lt_self (by omega) (by omega)

/-- The decimal digits of the coefficient. -/
def digits (d : Decimal) : List Char := Nat.toDigits 10 d.coefficient

end Decimal

namespace Binary64

/-- The reals that round to a number, scaled to share one denominator: the number itself is
`value / denominator`, and the interval reaches from `low / denominator` to `high / denominator`. -/
structure Interval where
  low : Nat
  value : Nat
  high : Nat
  denominator : Nat
  closed : Bool

/-- The interval of a finite positive number. Just above a power of two the numbers below are twice
as dense, so the lower end is twice as near there. -/
def interval (x : Binary64) : Interval :=
  let quarter := x.exponent - 2
  let scale := 1 <<< quarter.toNat
  let m := 4 * x.mantissa
  let gap := if x.fractionField = 0 ∧ 1 < x.exponentField then 1 else 2
  { low := (m - gap) * scale
    value := m * scale
    high := (m + 2) * scale
    denominator := 1 <<< (-quarter).toNat
    closed := decide (x.mantissa % 2 = 0) }

namespace Interval

/-- Whether `numerator / denominator` lies in the interval whose ends are scaled by `factor`. -/
def holds (i : Interval) (factor point : Nat) : Bool :=
  if i.closed then decide (i.low * factor ≤ point) && decide (point ≤ i.high * factor)
  else decide (i.low * factor < point) && decide (point < i.high * factor)

/-- The point of the grid of step `10 ^ e` that lies in the interval and is nearest to the value; a
tie goes to the even one. -/
def onGrid? (i : Interval) (e : Int) : Option Decimal :=
  let step := i.denominator * Nat.pow 10 e.toNat
  let factor := Nat.pow 10 (-e).toNat
  let below := i.value * factor / step
  let rest := i.value * factor % step
  let hitBelow := i.holds factor (below * step)
  let hitAbove := i.holds factor ((below + 1) * step)
  let nearerBelow :=
    decide (2 * rest < step) || (decide (2 * rest = step) && decide (below % 2 = 0))
  if hitBelow && (nearerBelow || !hitAbove) then some ⟨below, e⟩
  else if hitAbove then some ⟨below + 1, e⟩
  else none

/-- How many times a fraction below one must be multiplied by ten to reach one, at most `fuel`
times. -/
def leadingZeros (numerator denominator : Nat) : Nat → Nat
  | 0 => 0
  | fuel + 1 =>
    if denominator ≤ numerator then 0
    else leadingZeros (numerator * 10) denominator fuel + 1

/-- The position of the decimal point: the value is below `10 ^ point` and at least a tenth of it.
No positive number is below `10 ^ -330`, which bounds the count of leading zeros. -/
def point (i : Interval) : Int :=
  if i.denominator ≤ i.value then ((Nat.toDigits 10 (i.value / i.denominator)).length : Int)
  else 1 - (leadingZeros i.value i.denominator 330 : Int)

end Interval

/-- The shortest decimal that reads back as the magnitude of a finite number. -/
def shortest (x : Binary64) : Decimal :=
  if x.mantissa = 0 then ⟨0, 0⟩
  else
    let i := x.interval
    let found := (List.range 17).findSome? fun (n : Nat) => i.onGrid? (i.point - ((n : Int) + 1))
    (found.getD ⟨0, 0⟩).normalize

end Binary64

end PreparedFilter
