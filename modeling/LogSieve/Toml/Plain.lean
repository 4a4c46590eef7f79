import LogSieve.Number.Binary64
import LogSieve.Text.Basic
import LogSieve.Toml.Value

/-!
# Numbers and times of TOML

Only their form matters here. An integer has to fit into 64 bits with a sign, and a floating-point
number without a minus sign must not be too large. Single underscores may stand between digits. A
time is a date, a time of day, or both with an optional offset, and has to be one that the calendar
and the clock know.
-/

namespace LogSieve.Toml

/-- More digits of a number, each of which may have an underscore before it. -/
def moreDigits (isDigit : Char → Bool) : Text → Text × Text
  | [] => ([], [])
  | c :: rest =>
    if isDigit c then
      let (digits, left) := moreDigits isDigit rest
      (c :: digits, left)
    else if c = '_' then
      match rest with
      | [] => ([], [c])
      | d :: after =>
        if isDigit d then
          let (digits, left) := moreDigits isDigit after
          (d :: digits, left)
        else ([], c :: rest)
    else ([], c :: rest)

/-- Digits with underscores between them. -/
def readDigits? (isDigit : Char → Bool) : Text → Option (Text × Text)
  | [] => none
  | c :: rest =>
    if isDigit c then
      let (digits, left) := moreDigits isDigit rest
      some (c :: digits, left)
    else none

/-- The sign of a number, with `true` for minus. -/
def readSign : Text → Bool × Text
  | '+' :: rest => (false, rest)
  | '-' :: rest => (true, rest)
  | text => (false, text)

/-- The digits of a decimal integer: a zero stands alone. -/
def readWhole? : Text → Option (Text × Text)
  | '0' :: rest => some (['0'], rest)
  | text => readDigits? Text.isDigit text

/-- A point and the digits after it. -/
def readFraction? : Text → Option (Text × Text)
  | '.' :: rest => readDigits? Text.isDigit rest
  | _ => none

/-- A mark, an optional sign, and the digits of an exponent. -/
def readExponent? : Text → Option (Int × Text)
  | [] => none
  | mark :: rest =>
    if mark = 'e' || mark = 'E' then
      let (negative, rest) := readSign rest
      (readDigits? Text.isDigit rest).map fun (digits, rest) =>
        let exponent : Int := Text.numeralValue digits
        (if negative then -exponent else exponent, rest)
    else none

/-- Whether the floating-point number nearest to `digits * 10 ^ exponent` is too large. -/
def isTooLarge (digits : Nat) (exponent : Int) : Bool :=
  if digits = 0 then false
  else
    let places : Int := exponent + (Text.numeral digits).length
    if 400 < places then true
    else if places < 0 then false
    else (Binary64.ofDecimal? false digits exponent).isNone

/-- A floating-point number with a fraction, an exponent, or both. -/
def readFloat? (text : Text) : Option Text := do
  let (negative, rest) := readSign text
  let (whole, rest) ← readWhole? rest
  let fraction := readFraction? rest
  let rest := (fraction.map (·.2)).getD rest
  let exponent := readExponent? rest
  if fraction.isNone && exponent.isNone then none
  else
    let places := (fraction.map (·.1)).getD []
    let shift := (exponent.map (·.1)).getD 0 - places.length
    if !negative && isTooLarge (Text.numeralValue (whole ++ places)) shift then none
    else pure ((exponent.map (·.2)).getD rest)

/-- The names of numbers that no digits write. -/
def readNamed? (text : Text) : Option Text :=
  match (readSign text).2 with
  | 'i' :: 'n' :: 'f' :: rest => some rest
  | 'n' :: 'a' :: 'n' :: rest => some rest
  | _ => none

/-- A decimal integer. -/
def readInteger? (text : Text) : Option Text := do
  let (negative, rest) := readSign text
  let (digits, rest) ← readWhole? rest
  let bound := if negative then Nat.pow 2 63 + 1 else Nat.pow 2 63
  if Text.numeralValue digits < bound then pure rest else none

/-- An integer in base two, eight or sixteen, after its mark. -/
def readRadix? (bits : Nat) (text : Text) : Option Text := do
  let isDigit c := ((Text.hexDigit? c).map (decide <| · < Nat.pow 2 bits)).getD false
  let (digits, rest) ← readDigits? isDigit text
  let value := digits.foldl (fun value c => value * Nat.pow 2 bits + (Text.hexDigit? c).getD 0) 0
  if value < Nat.pow 2 63 then pure rest else none

/-- Exactly `count` digits, as the number they write. -/
def readFixed? (count : Nat) (text : Text) : Option (Nat × Text) :=
  let digits := text.take count
  if digits.length = count ∧ digits.all Text.isDigit then
    some (Text.numeralValue digits, text.drop count)
  else none

/-- A character that has to stand here. -/
def readChar? (c : Char) : Text → Option Text
  | [] => none
  | d :: rest => if c = d then some rest else none

/-- How many days a month has. -/
def daysOf (year month : Nat) : Nat :=
  if month = 2 then
    if year % 4 = 0 ∧ (year % 100 ≠ 0 ∨ year % 400 = 0) then 29 else 28
  else if month = 4 ∨ month = 6 ∨ month = 9 ∨ month = 11 then 30
  else 31

/-- A date. -/
def readDate? (text : Text) : Option Text := do
  let (year, rest) ← readFixed? 4 text
  let (month, rest) ← readFixed? 2 (← readChar? '-' rest)
  let (day, rest) ← readFixed? 2 (← readChar? '-' rest)
  if 1 ≤ month ∧ month ≤ 12 ∧ 1 ≤ day ∧ day ≤ daysOf year month then pure rest else none

/-- Hours and minutes. -/
def readHourMinute? (text : Text) : Option Text := do
  let (hour, rest) ← readFixed? 2 text
  let (minute, rest) ← readFixed? 2 (← readChar? ':' rest)
  if hour ≤ 23 ∧ minute ≤ 59 then pure rest else none

/-- A time of day, with a leap second allowed. -/
def readClock? (text : Text) : Option Text := do
  let rest ← readHourMinute? text
  let (second, rest) ← readFixed? 2 (← readChar? ':' rest)
  if 60 < second then none
  else
    match rest with
    | '.' :: places =>
      if (places.takeWhile Text.isDigit).isEmpty then pure rest
      else pure (places.dropWhile Text.isDigit)
    | _ => pure rest

/-- The text after an offset from universal time, if one stands here. -/
def skipOffset (text : Text) : Text :=
  match text with
  | [] => []
  | c :: rest =>
    if c = 'Z' || c = 'z' then rest
    else if c = '+' || c = '-' then (readHourMinute? rest).getD text
    else text

/-- The text after a time of day and an offset, if they follow a date. -/
def skipClock (text : Text) : Text :=
  match text with
  | [] => []
  | c :: rest =>
    if c = 'T' || c = 't' || c = ' ' then ((readClock? rest).map skipOffset).getD text else text

/-- A date with or without a time of day, or a time of day. -/
def readTime? (text : Text) : Option Text :=
  match readDate? text with
  | some rest => some (skipClock rest)
  | none => readClock? text

/-- A number or a time. -/
def readPlain? (text : Text) : Option (Value × Text) :=
  match text with
  | '0' :: 'x' :: rest => (readRadix? 4 rest).map (Value.number, ·)
  | '0' :: 'o' :: rest => (readRadix? 3 rest).map (Value.number, ·)
  | '0' :: 'b' :: rest => (readRadix? 1 rest).map (Value.number, ·)
  | _ =>
    match readTime? text with
    | some rest => some (.time, rest)
    | none =>
      ((readFloat? text <|> readNamed? text) <|> readInteger? text).map (Value.number, ·)

end LogSieve.Toml
