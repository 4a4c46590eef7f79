import LogSieve.Number

/-!
# Numerals of values

A numeral without fraction and exponent is a whole number if it fits into 64 bits. Every other
numeral is a floating-point number, got in three steps that each round, so that the result is not
always the nearest number: the digits are gathered into a significand of 64 bits, the rest of them
only moving the point; the significand is made a floating-point number; and that is multiplied with
or divided by a power of ten.
-/

namespace LogSieve.Json

/-- The parts of a numeral as written. -/
structure Numeral where
  /-- Whether a minus sign stands in front. -/
  negative : Bool
  /-- The digits before the point. -/
  whole : Text
  /-- The digits after the point. -/
  fraction : Option Text
  /-- The exponent. -/
  exponent : Option Int

namespace Numeral

/-- The leading digits of a text and what follows them, if there are any. -/
def digits? (text : Text) : Option (Text × Text) :=
  match text.takeWhile Text.isDigit with
  | [] => none
  | digits => some (digits, text.dropWhile Text.isDigit)

/-- The digits before the point: a zero stands alone. -/
def readWhole? (text : Text) : Option (Text × Text) :=
  match digits? text with
  | some ('0' :: _ :: _, _) => none
  | other => other

/-- The fraction if a point follows; a point without digits is refused. -/
def readFraction? : Text → Option (Option Text × Text)
  | '.' :: rest => (digits? rest).map fun (digits, rest) => (some digits, rest)
  | text => some (none, text)

/-- The sign in front of an exponent, with `true` for minus. -/
def readSign : Text → Bool × Text
  | '+' :: rest => (false, rest)
  | '-' :: rest => (true, rest)
  | text => (false, text)

/-- The exponent if one follows; a mark without digits is refused. -/
def readExponent? (text : Text) : Option (Option Int × Text) :=
  match text with
  | [] => some (none, [])
  | mark :: rest =>
    if mark = 'e' || mark = 'E' then
      let (negative, rest) := readSign rest
      (digits? rest).map fun (digits, rest) =>
        let exponent := Text.numeralValue digits
        (some (if negative then -exponent else exponent), rest)
    else some (none, mark :: rest)

/-- The minus sign if one stands in front. -/
def readMinus : Text → Bool × Text
  | '-' :: rest => (true, rest)
  | text => (false, text)

/-- The numeral at the start of a text, and what follows it. -/
def read? (text : Text) : Option (Numeral × Text) := do
  let (negative, rest) := readMinus text
  let (whole, rest) ← readWhole? rest
  let (fraction, rest) ← readFraction? rest
  let (exponent, rest) ← readExponent? rest
  pure ({ negative, whole, fraction, exponent }, rest)

/-- The value of a digit. -/
def digitValue (c : Char) : Nat :=
  c.toNat - '0'.toNat

/-- Appends digits to a significand while it stays below `2 ^ 64`. The second part counts the
digits that were appended, the third those that were left. -/
def gather (significand : Nat) : Text → Nat × Nat × Nat
  | [] => (significand, 0, 0)
  | digit :: digits =>
    let next := significand * 10 + digitValue digit
    if next < Nat.pow 2 64 then
      let (significand, taken, left) := gather next digits
      (significand, taken + 1, left)
    else (significand, 0, digits.length + 1)

/-- The greatest power of ten among the floating-point numbers. -/
def greatestPower : Nat := 308

/-- A power of ten as a floating-point number. -/
def powerOfTen (exponent : Nat) : Binary64 :=
  (Binary64.ofRatio? false (Nat.pow 10 exponent) 1).getD (Binary64.zero false)

/-- Divides a number by the greatest power of ten, `steps` times or until it is zero, and then by
`10 ^ places`. -/
def divideBySteps? (places : Nat) : (steps : Nat) → Binary64 → Option Binary64
  | 0, x => x.div? (powerOfTen places)
  | steps + 1, x =>
    if x.isZero then some x
    else (x.div? (powerOfTen greatestPower)).bind (divideBySteps? places steps)

/-- Divides a number by `10 ^ places`. -/
def shiftDown? (x : Binary64) (places : Nat) : Option Binary64 :=
  let steps := (places - 1) / greatestPower
  divideBySteps? (places - greatestPower * steps) steps x

/-- Moves the point of a number by `exponent` places; `none` if the result is too large. -/
def shift? (x : Binary64) (exponent : Int) : Option Binary64 :=
  if exponent < 0 then shiftDown? x exponent.natAbs
  else if exponent.natAbs ≤ greatestPower then x.mul? (powerOfTen exponent.natAbs)
  else if x.isZero then some x
  else none

/-- The floating-point number of a numeral. -/
def binary? (numeral : Numeral) : Option Binary64 := do
  let (significand, _, left) := gather 0 numeral.whole
  let (significand, taken, _) := gather significand (numeral.fraction.getD [])
  let start ← Binary64.ofRatio? numeral.negative significand 1
  shift? start (left - taken + numeral.exponent.getD 0)

/-- The whole number of a numeral, if it has no fraction and no exponent and fits into 64 bits. A
zero with a minus sign is not a whole number. -/
def whole? (numeral : Numeral) : Option Int :=
  if numeral.fraction.isSome || numeral.exponent.isSome then none
  else
    let magnitude := Text.numeralValue numeral.whole
    if numeral.negative then
      if 0 < magnitude && magnitude ≤ Nat.pow 2 63 then some (-(magnitude : Int)) else none
    else if magnitude < Nat.pow 2 64 then some magnitude
    else none

/-- The number of a numeral; `none` if it is too large. -/
def number? (numeral : Numeral) : Option Number :=
  match numeral.whole? with
  | some value => some (.whole value)
  | none => numeral.binary?.map .binary

end Numeral

end LogSieve.Json
