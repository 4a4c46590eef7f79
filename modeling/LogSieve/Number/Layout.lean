import LogSieve.Text.Basic
import LogSieve.Number.Shortest

/-!
# How numbers are written

A layout says when a decimal is written with all its places and when with an exponent. `json` is
the layout of records: a number between a hundred-thousandth and ten quadrillion shows its places,
and at least one after the point; any other shows one digit before the point and an exponent with
its sign. Whole numbers, where a filter compares by text, are written without a point by
`wholeText?`.
-/

namespace LogSieve

/-- The choices made in writing a decimal. -/
structure NumberLayout where
  /-- The least exponent of the first digit that is written with all places. -/
  leastPlain : Int
  /-- The greatest exponent of the first digit that is written with all places. -/
  greatestPlain : Int
  /-- The places after the point that a whole number still shows. -/
  wholePlaces : Text
  /-- What divides digits and exponent. -/
  exponentMark : Text
  /-- What stands before an exponent that is not negative. -/
  exponentPlus : Text

namespace NumberLayout

/-- The layout of numbers in records. -/
def json : NumberLayout where
  leastPlain := -5
  greatestPlain := 15
  wholePlaces := ['0']
  exponentMark := ['e']
  exponentPlus := ['+']

/-- The exponent of the first digit. -/
def leading (x : Decimal) : Int :=
  x.exponent + ((Text.numeral x.digits).length : Int) - 1

/-- The decimal with all its places. -/
def plain (layout : NumberLayout) (x : Decimal) : Text :=
  let digits := Text.numeral x.digits
  if 0 ≤ x.exponent then
    digits ++ List.replicate x.exponent.toNat '0' ++ ['.'] ++ layout.wholePlaces
  else
    let places := (-x.exponent).toNat
    -- zeros in front, so that one digit stands before the point
    let padded := List.replicate (places + 1 - digits.length) '0' ++ digits
    padded.take (padded.length - places) ++ ['.'] ++ padded.drop (padded.length - places)

/-- The decimal with one digit before the point and an exponent. -/
def scientific (layout : NumberLayout) (x : Decimal) : Text :=
  let digits := Text.numeral x.digits
  let exponent := leading x
  let fraction := digits.drop 1
  digits.take 1 ++ (if fraction.isEmpty then [] else '.' :: fraction) ++ layout.exponentMark ++
    (if exponent < 0 then ['-'] else layout.exponentPlus) ++ Text.numeral exponent.natAbs

/-- The text of a decimal. -/
def write (layout : NumberLayout) (x : Decimal) : Text :=
  if layout.leastPlain ≤ leading x ∧ leading x ≤ layout.greatestPlain then layout.plain x
  else layout.scientific x

end NumberLayout

namespace Binary64

/-- The text of a number: its sign, also that of zero, and the shortest decimal that reads back. -/
def text (layout : NumberLayout) (x : Binary64) : Text :=
  (if x.negative then ['-'] else []) ++ layout.write x.shortest

/-- The digits of a whole number of magnitude below `10 ^ 21`, without a point. Zero has no
sign. -/
def wholeText? (x : Binary64) : Option Text :=
  x.natural?.bind fun n =>
    if n < Nat.pow 10 21 then
      some ((if x.negative && n ≠ 0 then ['-'] else []) ++ Text.numeral n)
    else none

end Binary64

end LogSieve
