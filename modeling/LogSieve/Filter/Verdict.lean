import LogSieve.Filter.Expr
import LogSieve.Json.Writer
import LogSieve.Record.Basic
import LogSieve.Text.Lower

/-!
# The verdict of a filter on a record

Every expression has a value in a record: a path the value found there, or null where nothing is;
a constant itself; an operator a truth value. `Expr.holds` is the truth of that value, so that a
path or a constant may stand where a condition is needed, and a condition where an operand is.

Two values are equal when they agree as values of one type, or when their texts have the same
lower-case form. `contains` looks for one lower-case form in the other.
-/

namespace LogSieve

namespace Json

/-- The text by which a value is compared. -/
def comparedText : Json → Text
  | null => ['n', 'u', 'l', 'l']
  | bool true => ['t', 'r', 'u', 'e']
  | bool false => ['f', 'a', 'l', 's', 'e']
  | string value => value
  | number value => value.comparedText
  | array items => (array items).text
  | object members => (object members).text

/-- The text by which a value is compared when case does not count. -/
def foldedText (value : Json) : Text :=
  Text.lower value.comparedText

/-- Whether two values agree as values of one type. Arrays and objects never do. -/
def agrees : Json → Json → Bool
  | null, null => true
  | bool x, bool y => x == y
  | string x, string y => x == y
  | number x, number y => x.agrees y
  | _, _ => false

/-- Whether two values count as equal. -/
def equals (x y : Json) : Bool :=
  x.agrees y || x.foldedText == y.foldedText

/-- Whether the text of `y` stands in the text of `x`. -/
def contains (x y : Json) : Bool :=
  Text.occursIn y.foldedText x.foldedText

/-- Whether a value counts as true. -/
def isTruthy : Json → Bool
  | null => false
  | bool value => value
  | number value => !value.isZero
  | string value => !value.isEmpty
  | array _ => true
  | object _ => true

end Json

/-- The value of a constant. -/
def Literal.value : Literal → Json
  | string value => .string value
  | number value => .number (.whole value)

namespace Expr

/-- The value of an expression in a record. -/
def value (record : Record) : Expr → Json
  | field path => (record.resolve? path.segments).getD .null
  | literal constant => constant.value
  | equals left right => .bool ((left.value record).equals (right.value record))
  | contains left right => .bool ((left.value record).contains (right.value record))
  | and left right => .bool ((left.value record).isTruthy && (right.value record).isTruthy)
  | or left right => .bool ((left.value record).isTruthy || (right.value record).isTruthy)
  | not operand => .bool (!(operand.value record).isTruthy)

/-- A field has the value that its path leads to. -/
theorem value_field {record : Record} {path : FieldPath} {value : Json}
    (h : record.resolve? path.segments = some value) : (field path).value record = value := by
  rw [Expr.value, h, Option.getD_some]

/-- Whether a record satisfies an expression. -/
def holds (expr : Expr) (record : Record) : Bool :=
  (expr.value record).isTruthy

@[simp] theorem holds_and (left right : Expr) (record : Record) :
    (and left right).holds record = (left.holds record && right.holds record) := rfl

@[simp] theorem holds_or (left right : Expr) (record : Record) :
    (or left right).holds record = (left.holds record || right.holds record) := rfl

@[simp] theorem holds_not (operand : Expr) (record : Record) :
    (not operand).holds record = !operand.holds record := rfl

end Expr

end LogSieve
