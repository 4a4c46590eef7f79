import LogSieve.Number.Binary64

/-!
# The shortest decimal that reads back

Among all decimals that round to a given binary number, `Binary64.shortest` takes one with the
fewest digits, and of those the one nearest to the number. It tries grids of decimals from coarse
to fine; on each grid only the two neighbours of the number can be nearest. The decimals that round
to the number form an interval, whose ends belong to it if the significand is even, and all
comparisons are between natural numbers.
-/

namespace LogSieve

/-- A decimal `digits * 10 ^ exponent`. -/
structure Decimal where
  /-- The digits, read as one natural number. -/
  digits : Nat
  /-- The power of ten of the last digit. -/
  exponent : Int
  deriving DecidableEq, Repr

namespace Decimal

/-- Removes up to `count` zeros from the end of the digits. -/
def stripZeros : (count : Nat) → Decimal → Decimal
  | 0, x => x
  | count + 1, x =>
    if x.digits ≠ 0 ∧ x.digits % 10 = 0 then stripZeros count ⟨x.digits / 10, x.exponent + 1⟩
    else x

end Decimal

namespace Binary64

/-- The magnitudes that round to a number, in units of `num / den`: between `low` and `high`, with
`mid` the number itself. -/
structure Basin where
  /-- The lower end, half a step below the number. -/
  low : Nat
  /-- The number. -/
  mid : Nat
  /-- The upper end, half a step above the number. -/
  high : Nat
  /-- Whether the ends round to the number too. -/
  closed : Bool
  /-- The numerator of the unit. -/
  num : Nat
  /-- The denominator of the unit. -/
  den : Nat

/-- The magnitudes that round to the magnitude of `x`. Below a power of two the numbers lie twice
as dense, so the lower half step is a quarter of a unit there. -/
def basin (x : Binary64) : Basin :=
  let unit := x.exponent - 2
  let below := if x.significand = Nat.pow 2 52 ∧ -1074 < x.exponent then 1 else 2
  { low := 4 * x.significand - below
    mid := 4 * x.significand
    high := 4 * x.significand + 2
    closed := x.significand % 2 = 0
    num := Nat.pow 2 unit.toNat
    den := Nat.pow 2 (-unit).toNat }

/-- The decimal on the grid `10 ^ exponent` that lies in the basin nearest to its number. On a tie
it is the one with an even last digit. -/
def Basin.onGrid? (basin : Basin) (exponent : Int) : Option Decimal :=
  -- in the common unit of the basin and the grid
  let left := basin.num * Nat.pow 10 (-exponent).toNat
  let step := basin.den * Nat.pow 10 exponent.toNat
  let inside (digits : Nat) : Bool :=
    if basin.closed then basin.low * left ≤ digits * step && digits * step ≤ basin.high * left
    else basin.low * left < digits * step && digits * step < basin.high * left
  let floor := basin.mid * left / step
  let down := basin.mid * left - floor * step
  let up := (floor + 1) * step - basin.mid * left
  match inside floor, inside (floor + 1) with
  | true, true =>
    if down < up ∨ (down = up ∧ floor % 2 = 0) then some ⟨floor, exponent⟩
    else some ⟨floor + 1, exponent⟩
  | true, false => some ⟨floor, exponent⟩
  | false, true => some ⟨floor + 1, exponent⟩
  | false, false => none

/-- The first decimal found on the grids `10 ^ exponent`, `10 ^ (exponent - 1)` and so on. -/
def Basin.search (basin : Basin) : (grids : Nat) → (exponent : Int) → Decimal
  | 0, exponent => ⟨basin.mid * basin.num * Nat.pow 10 (-exponent).toNat /
      (basin.den * Nat.pow 10 exponent.toNat), exponent⟩
  | grids + 1, exponent => (basin.onGrid? exponent).getD (basin.search grids (exponent - 1))

/-- A power of ten that is greater than the magnitude, by less than a factor of a thousand. -/
def powerAbove (x : Binary64) : Int :=
  -- log₁₀ 2 lies between 0.30102 and 0.30103
  let bits : Int := (x.significand.log2 : Int) + 1 + x.exponent
  (if 0 ≤ bits then bits * 30103 / 100000 else bits * 30102 / 100000) + 1

/-- The nearest of the decimals with fewest digits that round to the magnitude of `x`. Seventeen
digits always suffice. -/
def shortest (x : Binary64) : Decimal :=
  if x.isZero then ⟨0, 0⟩
  else (x.basin.search 20 x.powerAbove).stripZeros 20

end Binary64

end LogSieve
