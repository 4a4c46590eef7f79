import LogSieve.Json.Fields
import LogSieve.Number

/-!
# Values

The values of a log record. An object has its members in the order of their names.
-/

namespace LogSieve

/-- A value of a record. -/
inductive Json where
  /-- The absence of a value. -/
  | null
  /-- A truth value. -/
  | bool (value : Bool)
  /-- A number. -/
  | number (value : Number)
  /-- A text. -/
  | string (value : Text)
  /-- A sequence of values. -/
  | array (items : List Json)
  /-- Named values. -/
  | object (members : List (Text × Json))
  deriving Repr, Inhabited

end LogSieve
