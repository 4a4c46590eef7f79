/-!
# Finite binary floating-point numbers of 64 bits

A `Binary64` is a sign with the magnitude `significand * 2 ^ exponent`, written in the one canonical
way: the significand has 53 bits unless the exponent is the least one. Infinities and NaN are not
numbers here; an operation whose result would be too large has no result.

Every operation rounds an exact quotient of natural numbers once, to the nearest number and to the
even significand on a tie (`ofRatio?`), so products, quotients and decimal numerals are correctly
rounded by construction.
-/

namespace LogSieve

/-- The canonical significands and exponents of finite numbers. -/
def CanonicalBinary64 (significand : Nat) (exponent : Int) : Prop :=
  significand < Nat.pow 2 53 ∧ -1074 ≤ exponent ∧ exponent ≤ 971 ∧
    (Nat.pow 2 52 ≤ significand ∨ exponent = -1074)

instance (significand : Nat) (exponent : Int) :
    Decidable (CanonicalBinary64 significand exponent) :=
  inferInstanceAs (Decidable (_ ∧ _))

/-- A finite number: a sign and a magnitude `significand * 2 ^ exponent`. There are two zeros. -/
structure Binary64 where
  /-- Whether the number carries a minus sign. -/
  negative : Bool
  /-- The integer part of the magnitude. -/
  significand : Nat
  /-- The power of two of the magnitude. -/
  exponent : Int
  /-- The magnitude is written canonically. -/
  canonical : CanonicalBinary64 significand exponent
  deriving DecidableEq, Repr

namespace Binary64

/-- Zero with a sign. -/
def zero (negative : Bool) : Binary64 :=
  ⟨negative, 0, -1074, by decide⟩

/-- The number with these parts, if they are canonical. -/
def ofParts? (negative : Bool) (significand : Nat) (exponent : Int) : Option Binary64 :=
  if h : CanonicalBinary64 significand exponent then some ⟨negative, significand, exponent, h⟩
  else none

/-- The quotient rounded to the nearest natural number, to the even one on a tie. -/
def roundDiv (num den : Nat) : Nat :=
  let quotient := num / den
  let rest := num % den
  if 2 * rest < den then quotient
  else if den < 2 * rest then quotient + 1
  else quotient + quotient % 2

/-- The power of two at which the positive quotient `num / den` has an integer part of 53 bits, but
not less than the least exponent. -/
def scale (num den : Nat) : Int :=
  let guess := max (-1074) ((num.log2 : Int) - den.log2 - 53)
  if num * Nat.pow 2 (-guess).toNat < den * Nat.pow 2 guess.toNat * Nat.pow 2 53 then guess
  else guess + 1

/-- The quotient `num / den` with a sign, rounded to the nearest number; `none` if that is too
large. A quotient of zero keeps the sign. -/
def ofRatio? (negative : Bool) (num den : Nat) : Option Binary64 :=
  if num = 0 then some (zero negative)
  else
    let exponent := scale num den
    let significand := roundDiv (num * Nat.pow 2 (-exponent).toNat) (den * Nat.pow 2 exponent.toNat)
    -- rounding up may give the first number of 54 bits
    if significand = Nat.pow 2 53 then ofParts? negative (Nat.pow 2 52) (exponent + 1)
    else ofParts? negative significand exponent

/-- The number nearest to an integer. -/
def ofInt? (i : Int) : Option Binary64 :=
  ofRatio? (i < 0) i.natAbs 1

/-- The number nearest to `digits * 10 ^ exponent`. -/
def ofDecimal? (negative : Bool) (digits : Nat) (exponent : Int) : Option Binary64 :=
  ofRatio? negative (digits * Nat.pow 10 exponent.toNat) (Nat.pow 10 (-exponent).toNat)

/-- The rounded product. -/
def mul? (x y : Binary64) : Option Binary64 :=
  let exponent := x.exponent + y.exponent
  ofRatio? (x.negative != y.negative) (x.significand * y.significand * Nat.pow 2 exponent.toNat)
    (Nat.pow 2 (-exponent).toNat)

/-- The rounded quotient; `none` also for a divisor of zero. -/
def div? (x y : Binary64) : Option Binary64 :=
  if y.significand = 0 then none
  else
    let exponent := x.exponent - y.exponent
    ofRatio? (x.negative != y.negative) (x.significand * Nat.pow 2 exponent.toNat)
      (y.significand * Nat.pow 2 (-exponent).toNat)

/-- Whether the number is one of the two zeros. -/
def isZero (x : Binary64) : Bool :=
  x.significand == 0

/-- Whether two numbers have the same value: the zeros do, and otherwise only a number with
itself. -/
def sameValue (x y : Binary64) : Bool :=
  (x.isZero && y.isZero) || x == y

/-- The magnitude if it is a natural number. -/
def natural? (x : Binary64) : Option Nat :=
  if 0 ≤ x.exponent then some (x.significand * Nat.pow 2 x.exponent.toNat)
  else
    let unit := Nat.pow 2 (-x.exponent).toNat
    if x.significand % unit = 0 then some (x.significand / unit) else none

end Binary64

end LogSieve
