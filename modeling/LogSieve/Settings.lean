import LogSieve.Record.Line
import LogSieve.Scan.Lines
import LogSieve.Text.Utf8
import LogSieve.Toml.Document

/-!
# Settings

Settings say how lines are read and how much is logged. They come from a TOML document: the section
`input` with three switches, and the section `logging` with a level. Whatever is missing keeps its
default, and names that mean nothing here are ignored. A section may also be a list, which gives its
settings in order; a time in the place of a section gives none.
-/

namespace LogSieve

/-- All settings. -/
structure Settings where
  /-- How lines are read. -/
  rules : InputRules := {}
  /-- Which messages are logged when the command line does not say. -/
  level : Text := ['w', 'a', 'r', 'n']
  deriving DecidableEq, Repr

/-- Why there are no settings. -/
inductive SettingsError where
  /-- The document cannot be read as text; the reason is worded. -/
  | unreadable (reason : Text)
  /-- The text is not a document, or a setting has a value of the wrong type. -/
  | malformed
  deriving DecidableEq, Repr

namespace Settings

/-- Where the settings of a section stand. -/
inductive Section where
  /-- By their names. -/
  | named (entries : Toml.Table)
  /-- In order. -/
  | listed (items : List Toml.Value)

/-- The section that a value is, if it can be one. -/
def Section.ofValue? : Toml.Value → Option Section
  | .table _ entries => some (.named entries)
  | .list items => some (.listed items)
  | .tables items => some (.listed (items.reverse.map (.table .header)))
  | .time => some (.named [])
  | _ => none

/-- The value of the setting with the given name and place in a section. -/
def Section.get? (source : Section) (name : String) (place : Nat) : Option Toml.Value :=
  match source with
  | named entries => entries.get? name.toList
  | listed items => items[place]?

/-- A truth value, or the default if there is no value. -/
def readSwitch? (default : Bool) : Option Toml.Value → Option Bool
  | none => some default
  | some (.bool value) => some value
  | some _ => none

/-- A text, or the default if there is no value. -/
def readText? (default : Text) : Option Toml.Value → Option Text
  | none => some default
  | some (.text value) => some value
  | some _ => none

/-- The section of a document with the given name; an empty one if it is missing. -/
def section? (document : Toml.Table) (name : String) : Option Section :=
  match document.get? name.toList with
  | none => some (.named [])
  | some value => Section.ofValue? value

/-- The settings of a document. -/
def ofDocument? (document : Toml.Table) : Option Settings := do
  let defaults : Settings := {}
  let input ← section? document "input"
  let logging ← section? document "logging"
  let json ← readSwitch? defaults.rules.json (input.get? "json" 0)
  let keyValue ← readSwitch? defaults.rules.keyValue (input.get? "key_value" 1)
  let coerceScalars ← readSwitch? defaults.rules.coerceScalars (input.get? "coerce_scalars" 2)
  let level ← readText? defaults.level (logging.get? "level" 0)
  pure { rules := { json, keyValue, coerceScalars }, level }

/-- The settings that bytes hold. -/
def ofBytes (bytes : Bytes) : Except SettingsError Settings :=
  match Utf8.decode? bytes with
  | none => .error (.unreadable "stream did not contain valid UTF-8".toList)
  | some text =>
    match (Toml.parse? text).bind ofDocument? with
    | none => .error .malformed
    | some settings => .ok settings

end Settings

end LogSieve
