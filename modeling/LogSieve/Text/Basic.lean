/-!
# Texts

A text is the list of its characters, each a Unicode scalar value, so that a position in a text is
an index into the list and cutting a text at a position never splits a character. The filter
language, the records and the printed answers are all made of texts; only log lines come in as
bytes.

Besides the type, this module holds the one search on texts that filters need: whether one text
stands somewhere inside another (`Text.occursIn_iff_isInfix`).
-/

namespace LogSieve

/-- A text is the list of its characters. -/
abbrev Text := List Char

namespace Text

/-- Whether `needle` stands somewhere in the text, as one unbroken run of characters. The empty
text stands everywhere. -/
def occursIn (needle : Text) : Text → Bool
  | [] => needle.isEmpty
  | c :: rest => needle.isPrefixOf (c :: rest) || occursIn needle rest

/-- `occursIn` decides the library's infix relation. -/
theorem occursIn_iff_isInfix {needle : Text} (text : Text) :
    occursIn needle text = true ↔ needle <:+: text := by
  induction text with
  | nil => simp [occursIn]
  | cons c rest ih => simp [occursIn, ih, List.infix_cons_iff]

/-- The decimal numeral of a natural number, without leading zeros. -/
def numeral (n : Nat) : Text :=
  Nat.toDigits 10 n

/-- The number that a run of ASCII digits writes; leading zeros are allowed. -/
def numeralValue (digits : Text) : Nat :=
  Nat.ofDigitChars 10 digits 0

/-- Reading back a numeral gives the number it was written for. -/
@[simp] theorem numeralValue_numeral (n : Nat) : numeralValue (numeral n) = n :=
  Nat.ofDigitChars_ten_toDigits

/-- The numeral of a number in base sixteen, in lower case and without leading zeros. -/
def hexNumeral (n : Nat) : Text :=
  Nat.toDigits 16 n

/-- The ASCII decimal digits. -/
def isDigit (c : Char) : Bool :=
  '0' ≤ c && c ≤ '9'

/-- The value of a hexadecimal digit in either case. -/
def hexDigit? (c : Char) : Option Nat :=
  if '0' ≤ c && c ≤ '9' then some (c.toNat - '0'.toNat)
  else if 'a' ≤ c && c ≤ 'f' then some (c.toNat - 'a'.toNat + 10)
  else if 'A' ≤ c && c ≤ 'F' then some (c.toNat - 'A'.toNat + 10)
  else none

end Text

end LogSieve
