import LogSieve.Text.Printable

/-!
# Quoted texts

The printed form of a text inside a filter: the text between double quotes, with a backslash
before a quote or a backslash, short escapes for the line feed, carriage return, tab and NUL, and
the code point in braces for every other character that would not be seen. The single quote needs
no escape.
-/

namespace LogSieve.Text

/-- The escape that shows a character by its code point. -/
def codeEscape (c : Char) : Text :=
  ['\\', 'u', '{'] ++ hexNumeral c.toNat ++ ['}']

/-- How a character is written between double quotes. -/
def quotedChar (c : Char) : Text :=
  if c = '"' then ['\\', '"']
  else if c = '\\' then ['\\', '\\']
  else if c = '\n' then ['\\', 'n']
  else if c = '\r' then ['\\', 'r']
  else if c = '\t' then ['\\', 't']
  else if c = '\x00' then ['\\', '0']
  else if isJoiningMark c || !isPrintable c then codeEscape c
  else [c]

/-- The text in double quotes. -/
def quoted (text : Text) : Text :=
  '"' :: text.flatMap quotedChar ++ ['"']

end LogSieve.Text
