import LogSieve.Filter.Token

/-!
# Errors in filters

Everything that can be wrong with a filter, each with the position where it was found, counted in
characters from the start. `FilterError.message` is the wording.
-/

namespace LogSieve

/-- What keeps a text from being a sequence of tokens. -/
inductive LexicalError where
  /-- A text opened by the quote at the position is never closed. -/
  | unterminatedString (position : Nat)
  /-- The filter ends right after a backslash inside quotes. -/
  | unexpectedEndOfString (position : Nat)
  /-- No token starts with the character. -/
  | unexpectedCharacter (character : Char) (position : Nat)
  /-- A number does not fit into 64 bits. -/
  | numberOutOfRange (digits : Text) (position : Nat)
  deriving DecidableEq, Repr

/-- What keeps tokens from being an expression. -/
inductive SyntaxError where
  /-- No expression goes on with the token. -/
  | unexpectedToken (found : TokenKind) (position : Nat)
  /-- Only one kind of token could stand here. -/
  | expected (wanted found : TokenKind) (position : Nat)
  /-- A word with an empty segment stands where a path is needed. -/
  | invalidFieldPath (path : Text) (position : Nat)
  /-- The token opens one level too many. -/
  | nestingTooDeep (position : Nat)
  deriving DecidableEq, Repr

/-- What keeps a text from being a filter. -/
inductive FilterError where
  /-- The text is not a sequence of tokens. -/
  | lexical (error : LexicalError)
  /-- The tokens are not an expression. -/
  | syntactic (error : SyntaxError)
  deriving DecidableEq, Repr

/-- How deep the levels of an expression may nest. -/
def deepestNesting : Nat := 256

private def atPosition (position : Nat) : Text :=
  " at position ".toList ++ Text.numeral position

namespace LexicalError

/-- Where the error was found. -/
def position : LexicalError → Nat
  | unterminatedString position => position
  | unexpectedEndOfString position => position
  | unexpectedCharacter _ position => position
  | numberOutOfRange _ position => position

/-- The wording of the error. -/
def message : LexicalError → Text
  | unterminatedString _ => "Unterminated string literal".toList
  | unexpectedEndOfString _ => "Unexpected end of string".toList
  | unexpectedCharacter character position =>
    "Unexpected character: ".toList ++ character :: atPosition position
  | numberOutOfRange digits position =>
    "Number literal out of range: ".toList ++ digits ++ atPosition position

end LexicalError

namespace SyntaxError

/-- Where the error was found. -/
def position : SyntaxError → Nat
  | unexpectedToken _ position => position
  | expected _ _ position => position
  | invalidFieldPath _ position => position
  | nestingTooDeep position => position

/-- The wording of the error. -/
def message : SyntaxError → Text
  | unexpectedToken found position =>
    "Unexpected token ".toList ++ found.name.toList ++ atPosition position
  | expected wanted found position =>
    "Expected ".toList ++ wanted.name.toList ++ ", got ".toList ++ found.name.toList ++
      atPosition position
  | invalidFieldPath path position =>
    "Invalid field path '".toList ++ path ++ "'".toList ++ atPosition position ++
      ": empty segment".toList
  | nestingTooDeep position =>
    "Expression nested too deeply".toList ++ atPosition position ++ " (limit ".toList ++
      Text.numeral deepestNesting ++ [')']

end SyntaxError

namespace FilterError

/-- Where the error was found. -/
def position : FilterError → Nat
  | lexical error => error.position
  | syntactic error => error.position

/-- The wording of the error. -/
def message : FilterError → Text
  | lexical error => error.message
  | syntactic error => error.message

end FilterError

end LogSieve
