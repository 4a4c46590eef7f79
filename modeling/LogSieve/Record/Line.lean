import LogSieve.Json.Reader
import LogSieve.Record.Basic
import LogSieve.Record.Scalar
import LogSieve.Text.Blank

/-!
# The record of a line

A line that writes a value is read as that value, and gives a record if it is an object and none
otherwise. Any other line is read word by word: a word with an equals sign after at least one
character gives the name before its first equals sign the value after it, and of words with the
same name the last one counts. A line without such a word gives no record. Rules switch either
reading off, and leave the values of words as texts.
-/

namespace LogSieve

/-- How lines are read. -/
structure InputRules where
  /-- Read a line that writes a value as that value. -/
  json : Bool := true
  /-- Read other lines as key=value words. -/
  keyValue : Bool := true
  /-- Give the values of words a type. -/
  coerceScalars : Bool := true
  deriving DecidableEq, Repr

namespace Record

/-- The name and the value that a word gives, if it has an equals sign after its first
character. -/
def pair? (word : Text) : Option (Text × Text) :=
  match word.takeWhile (· ≠ '='), word.dropWhile (· ≠ '=') with
  | [], _ => none
  | _, [] => none
  | name, _ :: value => some (name, value)

/-- The value of a word's text. -/
def wordValue (coerceScalars : Bool) (text : Text) : Json :=
  if coerceScalars then Scalar.coerce text else .string text

/-- The fields that the words of a line give. -/
def ofWords (coerceScalars : Bool) (words : List Text) : Record :=
  (words.filterMap pair?).foldl
    (fun record pair => record.insert pair.1 (wordValue coerceScalars pair.2)) []

/-- The record of a line read as key=value words, if any word gives a field. -/
def ofPairs? (coerceScalars : Bool) (line : Text) : Option Record :=
  match ofWords coerceScalars (Text.words line) with
  | [] => none
  | record => some record

/-- The record of a line, blanks at its ends not counting. -/
def ofLine? (rules : InputRules) (line : Text) : Option Record :=
  let line := Text.trim line
  match if rules.json then Json.parse? line else none with
  | some (.object members) => some members
  | some _ => none
  | none => if rules.keyValue then ofPairs? rules.coerceScalars line else none

end Record

end LogSieve
