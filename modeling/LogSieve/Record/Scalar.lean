import LogSieve.Json.Value

/-!
# Typing the values of key=value words

The text after the equals sign of a word is given a type by its form: `true` and `false` are truth
values; an optional minus sign and ASCII digits, or digits on both sides of a point, are a number;
anything else is a text, without one quote at its start and one at its end.

A numeral without a point is a whole number while it fits into 64 bits. Every other numeral is the
floating-point number nearest to it, unless that is too large: then the numeral stays a text.
-/

namespace LogSieve.Scalar

/-- The single and the double quote. -/
def isQuote (c : Char) : Bool :=
  c = '"' || c = '\''

/-- The text without one quote at its start. -/
def stripOpening : Text → Text
  | [] => []
  | c :: rest => if isQuote c then rest else c :: rest

/-- The text without one quote at its start and one at the end of what remains. -/
def stripQuotes (text : Text) : Text :=
  (stripOpening (stripOpening text).reverse).reverse

/-- The sign of a numeral, with `true` for minus, and what follows it. -/
def readSign : Text → Bool × Text
  | '-' :: rest => (true, rest)
  | text => (false, text)

/-- A number as written: its digits before and after the point. -/
structure Numeral where
  /-- Whether a minus sign stands in front. -/
  negative : Bool
  /-- The digits before the point. -/
  whole : Text
  /-- The digits after the point, or nothing if there is no point. -/
  fraction : Option Text

/-- Whether the text is one or more ASCII digits. -/
def isDigits (text : Text) : Bool :=
  !text.isEmpty && text.all Text.isDigit

/-- The numeral that a whole text writes. -/
def numeral? (text : Text) : Option Numeral :=
  let (negative, body) := readSign text
  match body.splitOn '.' with
  | [whole] => if isDigits whole then some ⟨negative, whole, none⟩ else none
  | [whole, fraction] =>
    if isDigits whole && isDigits fraction then some ⟨negative, whole, some fraction⟩ else none
  | _ => none

/-- The whole number of a numeral without a point, if it fits into 64 bits. -/
def Numeral.whole? (numeral : Numeral) : Option Int :=
  if numeral.fraction.isSome then none
  else
    let magnitude := Text.numeralValue numeral.whole
    if numeral.negative then
      if magnitude ≤ Nat.pow 2 63 then some (-(magnitude : Int)) else none
    else if magnitude < Nat.pow 2 64 then some magnitude
    else none

/-- The floating-point number nearest to a numeral; `none` if that is too large. -/
def Numeral.binary? (numeral : Numeral) : Option Binary64 :=
  let fraction := numeral.fraction.getD []
  Binary64.ofDecimal? numeral.negative (Text.numeralValue (numeral.whole ++ fraction))
    (-fraction.length)

/-- The number of a numeral; `none` if it is too large. -/
def Numeral.number? (numeral : Numeral) : Option Number :=
  match numeral.whole? with
  | some value => some (.whole value)
  | none => numeral.binary?.map .binary

/-- The value that a text without blanks stands for. -/
def coerce (text : Text) : Json :=
  if text = ['t', 'r', 'u', 'e'] then .bool true
  else if text = ['f', 'a', 'l', 's', 'e'] then .bool false
  else
    match (numeral? text).bind (·.number?) with
    | some number => .number number
    | none => .string (stripQuotes text)

end LogSieve.Scalar
