import LogSieve.Number.Layout

/-!
# Numbers of records and filters

A number is a whole number, kept exactly, or a binary floating-point number. Two whole numbers are
the same when they are equal; as soon as one side is a floating-point number, both sides are
compared as floating-point numbers, each whole number being rounded first.
-/

namespace LogSieve

/-- A number in a record or a filter. Readers produce whole numbers from `-2 ^ 63` up to but not
including `2 ^ 64`. -/
inductive Number where
  /-- A whole number. -/
  | whole (value : Int)
  /-- A floating-point number. -/
  | binary (value : Binary64)
  deriving DecidableEq, Repr

namespace Number

/-- The nearest floating-point number. -/
def toBinary? : Number → Option Binary64
  | whole value => Binary64.ofInt? value
  | binary value => some value

/-- Whether two numbers count as the same in a comparison. -/
def agrees : Number → Number → Bool
  | whole x, whole y => x == y
  | x, y =>
    match x.toBinary?, y.toBinary? with
    | some x, some y => x.sameValue y
    | _, _ => false

/-- Whether the number is zero, with either sign. -/
def isZero : Number → Bool
  | whole value => value == 0
  | binary value => value.isZero

/-- The decimal numeral of an integer. -/
def wholeText (value : Int) : Text :=
  (if value < 0 then ['-'] else []) ++ Text.numeral value.natAbs

/-- The text of a number in a record. -/
def text : Number → Text
  | whole value => wholeText value
  | binary value => value.text .json

/-- The text by which a filter compares a number: that of a record, but a whole floating-point
number below `10 ^ 21` reads like an integer. -/
def comparedText : Number → Text
  | whole value => wholeText value
  | binary value => value.wholeText?.getD (value.text .json)

end Number

end LogSieve
