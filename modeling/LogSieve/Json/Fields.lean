import LogSieve.Text.Basic

/-!
# Fields

A collection of named values, kept in ascending order of the names by code points, with one value
for each name. `Fields.get?_insert` is the law of maps: after an insertion the name has the new
value, and all other names have the values that they had.
-/

namespace LogSieve

/-- Named values in the order of their names. -/
abbrev Fields (α : Type) := List (Text × α)

namespace Fields

variable {α : Type}

/-- The value of a name. -/
def get? (name : Text) : Fields α → Option α
  | [] => none
  | field :: fields => if name = field.1 then some field.2 else get? name fields

/-- Gives a name a value. A former value of the name is replaced. -/
def insert (name : Text) (value : α) : Fields α → Fields α
  | [] => [(name, value)]
  | field :: fields =>
    if name = field.1 then (name, value) :: fields
    else if name < field.1 then (name, value) :: field :: fields
    else field :: insert name value fields

/-- An insertion changes the value of its own name only. -/
theorem get?_insert (fields : Fields α) (name : Text) (value : α) (other : Text) :
    (fields.insert name value).get? other =
      if other = name then some value else fields.get? other := by
  induction fields with
  | nil => simp [insert, get?]
  | cons field fields ih =>
    unfold insert
    split
    · next h => simp only [get?, h]; split <;> rfl
    · split
      · simp only [get?]
      · next h _ =>
        simp only [get?, ih]
        split
        · next h₁ => rw [if_neg (h₁ ▸ Ne.symm h)]
        · rfl

end Fields

end LogSieve
