import LogSieve.Json.Value

/-!
# Log records

A record is the values of a log line by name. A path of names leads from the record through objects
to a value.
-/

namespace LogSieve

/-- A log record: values by name. -/
abbrev Record := Fields Json

/-- The value at the end of a path; every name but the last must lead to an object. -/
def Record.resolve? : List Text → Record → Option Json
  | [], _ => none
  | [name], record => record.get? name
  | name :: names, record =>
    match record.get? name with
    | some (.object members) => Record.resolve? names members
    | _ => none

end LogSieve
