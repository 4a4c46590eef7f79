import LogSieve.Json.Value

/-!
# Writing values

The compact text of a value: no blanks, members in the order of their names, and in strings only
the quote, the backslash and the control characters below the space escaped.
-/

namespace LogSieve.Json

/-- How a character is written in a string. -/
def stringChar (c : Char) : Text :=
  if c = '"' then ['\\', '"']
  else if c = '\\' then ['\\', '\\']
  else if c = '\x08' then ['\\', 'b']
  else if c = '\x0c' then ['\\', 'f']
  else if c = '\n' then ['\\', 'n']
  else if c = '\r' then ['\\', 'r']
  else if c = '\t' then ['\\', 't']
  else if c.toNat < 0x20 then
    ['\\', 'u', '0', '0'] ++ List.replicate (2 - (Text.hexNumeral c.toNat).length) '0' ++
      Text.hexNumeral c.toNat
  else [c]

/-- A text as a string with its quotes. -/
def stringText (text : Text) : Text :=
  '"' :: text.flatMap stringChar ++ ['"']

mutual

/-- The text of a value. -/
def text : Json → Text
  | null => ['n', 'u', 'l', 'l']
  | bool true => ['t', 'r', 'u', 'e']
  | bool false => ['f', 'a', 'l', 's', 'e']
  | number value => value.text
  | string value => stringText value
  | array items => '[' :: [','].intercalate (itemTexts items) ++ [']']
  | object members => '\x7b' :: [','].intercalate (memberTexts members) ++ ['\x7d']

/-- The texts of the items of an array. -/
def itemTexts : List Json → List Text
  | [] => []
  | item :: items => item.text :: itemTexts items

/-- The texts of the members of an object. -/
def memberTexts : List (Text × Json) → List Text
  | [] => []
  | (name, value) :: members => (stringText name ++ ':' :: value.text) :: memberTexts members

end

end LogSieve.Json
