import LogSieve.Text.Alphanumeric
import LogSieve.Text.Basic
import LogSieve.Text.Lower

/-!
# Tokens of the filter language

A token is a kind, with the value it carries, at the position of its first character. Words are
spelled with letters, numbers, the underscore and the dot; four of them, in any case, are
operators.
-/

namespace LogSieve

/-- What a token is. -/
inductive TokenKind where
  /-- A word that is not reserved, as it is spelled. -/
  | identifier (word : Text)
  /-- A quoted text, with its escapes resolved. -/
  | string (value : Text)
  /-- A natural number. -/
  | number (value : Nat)
  | equals
  | contains
  | and
  | or
  | not
  | openParen
  | closeParen
  /-- The end of the filter. -/
  | endOfInput
  deriving DecidableEq, Repr

/-- A token at the position of its first character. -/
structure Token where
  /-- What the token is. -/
  kind : TokenKind
  /-- The number of characters before the token. -/
  position : Nat
  deriving DecidableEq, Repr

namespace TokenKind

/-- The name of a kind in messages. -/
def name : TokenKind → String
  | identifier _ => "IDENTIFIER"
  | string _ => "STRING"
  | number _ => "NUMBER"
  | equals => "EQUALS"
  | contains => "CONTAINS"
  | and => "AND"
  | or => "OR"
  | not => "NOT"
  | openParen => "LPAREN"
  | closeParen => "RPAREN"
  | endOfInput => "EOF"

/-- The operator that a word spells, whatever the case of its letters. -/
def reserved? (word : Text) : Option TokenKind :=
  let lowered := Text.lower word
  if lowered = ['a', 'n', 'd'] then some and
  else if lowered = ['o', 'r'] then some or
  else if lowered = ['n', 'o', 't'] then some not
  else if lowered = ['c', 'o', 'n', 't', 'a', 'i', 'n', 's'] then some contains
  else none

/-- The kind of a word. -/
def ofWord (word : Text) : TokenKind :=
  (reserved? word).getD (identifier word)

end TokenKind

/-- The characters that spell words. -/
def isWordChar (c : Char) : Bool :=
  Text.isAlphanumeric c || c = '_' || c = '.'

end LogSieve
