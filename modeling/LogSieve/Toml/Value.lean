import LogSieve.Json.Fields

/-!
# TOML values

The values of a TOML document, as far as settings need them: truth values and texts are kept,
numbers and times only as being there. A table remembers how it came about, because that decides
whether later lines may add to it: every name is defined once, and a table is complete where its
heading, its braces or the run of its dotted keys ends.
-/

namespace LogSieve.Toml

/-- How a table came about. -/
inductive Origin where
  /-- By a heading of its own, or as the document. -/
  | header
  /-- As an outer table of a heading. -/
  | implied
  /-- By a dotted key. -/
  | dotted
  /-- Between braces. -/
  | braces
  deriving DecidableEq, Repr

/-- A value. -/
inductive Value where
  /-- A truth value. -/
  | bool (value : Bool)
  /-- A text. -/
  | text (value : Text)
  /-- An integer or a floating-point number. -/
  | number
  /-- A date, a time of day, or both. -/
  | time
  /-- A list between brackets. -/
  | list (items : List Value)
  /-- A table. -/
  | table (origin : Origin) (entries : List (Text × Value))
  /-- The tables of a repeated heading, latest first. -/
  | tables (items : List (List (Text × Value)))
  deriving Repr, Inhabited

/-- The entries of a table. -/
abbrev Table := Fields Value

namespace Table

/-- Applies a change to the table at the end of a path. Tables that are missing on the way come
about with the given origin, and of a repeated heading the latest table is meant. No path enters a
table between braces, and no dotted key enters a table that has a heading. -/
def walk? (origin : Origin) (change : Origin → Table → Option Table) :
    List Text → Origin → Table → Option Table
  | [], own, table => change own table
  | name :: names, _, table =>
    match table.get? name with
    | none =>
      (walk? origin change names origin []).map fun entries =>
        table.insert name (.table origin entries)
    | some (.table own entries) =>
      if own = .braces ∨ (own = .header ∧ origin = .dotted) then none
      else
        (walk? origin change names own entries).map fun entries =>
          table.insert name (.table own entries)
    | some (.tables (latest :: others)) =>
      (walk? origin change names .header latest).map fun entries =>
        table.insert name (.tables (entries :: others))
    | some _ => none

/-- Gives a name its value, unless it has one. -/
def define? (name : Text) (value : Value) (table : Table) : Option Table :=
  match table.get? name with
  | some _ => none
  | none => some (table.insert name value)

/-- Gives a key its value. A dotted key ends in a table that came about by dotted keys. -/
def assign? (path : List Text) (name : Text) (value : Value) (table : Table) : Option Table :=
  walk? .dotted
    (fun own entries => if path ≠ [] ∧ own ≠ .dotted then none else entries.define? name value)
    path .header table

/-- Opens the table of a heading. It may have come about as an outer table before. -/
def openTable? (path : List Text) (name : Text) (table : Table) : Option Table :=
  walk? .implied
    (fun _ entries =>
      match entries.get? name with
      | none => some (entries.insert name (.table .header []))
      | some (.table .implied inner) => some (entries.insert name (.table .header inner))
      | some _ => none)
    path .header table

/-- Opens one more table of a repeated heading. -/
def openItem? (path : List Text) (name : Text) (table : Table) : Option Table :=
  walk? .implied
    (fun _ entries =>
      match entries.get? name with
      | none => some (entries.insert name (.tables [[]]))
      | some (.tables items) => some (entries.insert name (.tables ([] :: items)))
      | some _ => none)
    path .header table

end Table

end LogSieve.Toml
