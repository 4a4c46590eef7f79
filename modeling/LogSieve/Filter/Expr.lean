import LogSieve.Filter.Path
import LogSieve.Text.Quoted

/-!
# Filter expressions

The tree of a filter. `Expr.text` prints a tree with every operator in parentheses of its own, so
that no rule of precedence is needed to read it.
-/

namespace LogSieve

/-- A constant operand. -/
inductive Literal where
  /-- A text, quoted or a bare word. -/
  | string (value : Text)
  /-- A natural number. -/
  | number (value : Nat)
  deriving DecidableEq, Repr

/-- A filter expression. -/
inductive Expr where
  /-- The value at a path. -/
  | field (path : FieldPath)
  /-- A constant. -/
  | literal (value : Literal)
  /-- The comparison of two operands. -/
  | equals (left right : Expr)
  /-- The search for the right operand in the left one. -/
  | contains (left right : Expr)
  | and (left right : Expr)
  | or (left right : Expr)
  | not (operand : Expr)
  deriving DecidableEq, Repr

/-- The text of a constant. -/
def Literal.text : Literal → Text
  | string value => Text.quoted value
  | number value => Text.numeral value

namespace Expr

/-- The operand with a path replaced by the text it was written with. -/
def asText : Expr → Expr
  | field path => literal (.string path.text)
  | operand => operand

/-- Two operands around an operator, in parentheses. -/
def infixText (left operator right : Text) : Text :=
  '(' :: left ++ ' ' :: operator ++ ' ' :: right ++ [')']

/-- The text of an expression, fully parenthesised. -/
def text : Expr → Text
  | field path => path.text
  | literal value => value.text
  | equals left right => infixText left.text ['='] right.text
  | contains left right =>
    infixText left.text ['c', 'o', 'n', 't', 'a', 'i', 'n', 's'] right.text
  | and left right => infixText left.text ['a', 'n', 'd'] right.text
  | or left right => infixText left.text ['o', 'r'] right.text
  | not operand => ['(', 'n', 'o', 't', ' '] ++ operand.text ++ [')']

end Expr

end LogSieve
