import LogSieve.Text.Basic

/-!
# Field paths

A path names a field of a record, and behind dots the fields of the objects inside it. A path is
written with no empty segment; `FieldPath.parse?` refuses every other text.
-/

namespace LogSieve

/-- The names on the way to a value. -/
structure FieldPath where
  /-- The names, outermost first. -/
  segments : List Text
  deriving DecidableEq, Repr

namespace FieldPath

/-- The path that a text writes, unless one of its segments is empty. -/
def parse? (dotted : Text) : Option FieldPath :=
  let segments := dotted.splitOn '.'
  if segments.any (·.isEmpty) then none else some ⟨segments⟩

/-- The names joined by dots. -/
def text (path : FieldPath) : Text :=
  ['.'].intercalate path.segments

end FieldPath

end LogSieve
