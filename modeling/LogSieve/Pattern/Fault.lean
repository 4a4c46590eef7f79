import LogSieve.Text.Basic

/-!
# What is wrong with a pattern

Patterns are the regular expressions that a log directive may ask of a field. They are only checked
here, never matched. A `Fault` says what is wrong with a pattern and at which run of its characters;
where something must not stand twice, it also says where the first one stands. `Fault.report` shows
the pattern with carets under both places.
-/

namespace LogSieve.Pattern

/-- A run of characters of a pattern. It may be empty. -/
structure Span where
  /-- The number of characters before the run. -/
  start : Nat
  /-- The number of characters up to its end. -/
  stop : Nat
  deriving DecidableEq, Repr

/-- What is wrong. -/
inductive FaultKind where
  /-- A bracket that opens a group is never closed. -/
  | groupUnclosed
  /-- A bracket closes a group that is not open. -/
  | groupUnopened
  /-- The name of a group has no characters. -/
  | groupNameEmpty
  /-- A character cannot stand in the name of a group. -/
  | groupNameInvalid
  /-- The pattern ends in the name of a group. -/
  | groupNameUnclosed
  /-- Two groups have one name. -/
  | groupNameDuplicate
  /-- A group asks for what stands around it. -/
  | lookAround
  /-- The pattern ends among flags. -/
  | flagMissing
  /-- There is no such flag. -/
  | flagUnrecognized
  /-- A flag is given twice. -/
  | flagDuplicate
  /-- No flag follows the minus sign. -/
  | negationDangling
  /-- There are two minus signs among flags. -/
  | negationRepeated
  /-- Nothing stands before a repetition. -/
  | repetitionMissing
  /-- The braces of a counted repetition are not closed. -/
  | countUnclosed
  /-- The braces of a counted repetition hold no number. -/
  | countMissing
  /-- The number of a counted repetition is too large. -/
  | countInvalid
  /-- The pattern ends in an escape. -/
  | escapeUnfinished
  /-- There is no such escape. -/
  | escapeUnrecognized
  /-- An escape refers to a group. -/
  | backreference
  /-- A character of a code point is no hexadecimal digit. -/
  | codeDigit
  /-- There is no character with the code point. -/
  | codeInvalid
  /-- A backslash stands for the name of a property. -/
  | propertyInvalid
  /-- The pattern ends where a word boundary or a repetition could go on. -/
  | boundaryUnfinished
  /-- The braces after a word boundary are not closed. -/
  | boundaryUnclosed
  /-- A bracket that opens a class is never closed. -/
  | classUnclosed
  /-- An escape cannot stand in a class. -/
  | classEscape
  /-- An end of a range is no character. -/
  | rangeEnd
  /-- A range ends before it starts. -/
  | rangeInvalid
  /-- The pattern nests too deeply. -/
  | tooDeep
  /-- A class or a property goes beyond single bytes where only those count. -/
  | unicodeNotAllowed
  /-- The pattern could match bytes that are not UTF-8. -/
  | invalidUtf8
  /-- There is no such property. -/
  | propertyNotFound
  deriving DecidableEq, Repr

/-- How deeply a pattern may nest. -/
def deepestPattern : Nat := 250

namespace FaultKind

/-- The wording of a fault. -/
def message : FaultKind → String
  | groupUnclosed => "unclosed group"
  | groupUnopened => "unopened group"
  | groupNameEmpty => "empty capture group name"
  | groupNameInvalid => "invalid capture group character"
  | groupNameUnclosed => "unclosed capture group name"
  | groupNameDuplicate => "duplicate capture group name"
  | lookAround => "look-around, including look-ahead and look-behind, is not supported"
  | flagMissing => "expected flag but got end of regex"
  | flagUnrecognized => "unrecognized flag"
  | flagDuplicate => "duplicate flag"
  | negationDangling => "dangling flag negation operator"
  | negationRepeated => "flag negation operator repeated"
  | repetitionMissing => "repetition operator missing expression"
  | countUnclosed => "unclosed counted repetition"
  | countMissing => "repetition quantifier expects a valid decimal"
  | countInvalid => "decimal literal invalid"
  | escapeUnfinished => "incomplete escape sequence, reached end of pattern prematurely"
  | escapeUnrecognized => "unrecognized escape sequence"
  | backreference => "backreferences are not supported"
  | codeDigit => "invalid hexadecimal digit"
  | codeInvalid => "hexadecimal literal is not a Unicode scalar value"
  | propertyInvalid => "invalid Unicode character class"
  | boundaryUnfinished =>
    "found either the beginning of a special word boundary or a bounded repetition on a \\b " ++
      "with an opening brace, but no closing brace"
  | boundaryUnclosed =>
    "special word boundary assertion is either unclosed or contains an invalid character"
  | classUnclosed => "unclosed character class"
  | classEscape => "invalid escape sequence found in character class"
  | rangeEnd => "invalid range boundary, must be a literal"
  | rangeInvalid => "invalid character class range, the start must be <= the end"
  | tooDeep =>
    "exceed the maximum number of nested parentheses/brackets (" ++
      String.ofList (Text.numeral deepestPattern) ++ ")"
  | unicodeNotAllowed => "Unicode not allowed here"
  | invalidUtf8 => "pattern can match invalid UTF-8"
  | propertyNotFound => "Unicode property not found"

end FaultKind

/-- What is wrong with a pattern, and where. -/
structure Fault where
  /-- What is wrong. -/
  kind : FaultKind
  /-- Where it is wrong. -/
  span : Span
  /-- Where the same thing stands before. -/
  earlier : Option Span := none
  deriving DecidableEq, Repr

/-- The line of a position, counted from zero. -/
def lineOf (pattern : Text) (position : Nat) : Nat :=
  (pattern.take position).count '\n'

/-- The column of a position, counted from zero. -/
def columnOf (pattern : Text) (position : Nat) : Nat :=
  ((pattern.take position).reverse.takeWhile (· ≠ '\n')).length

/-- Whether a run of characters starts and ends on one line. -/
def Span.isOnOneLine (pattern : Text) (span : Span) : Bool :=
  lineOf pattern span.start = lineOf pattern span.stop

/-- Carets under spans of one line, in order, from the given column on. An empty span has one. -/
def carets (pattern : Text) : (column : Nat) → List Span → Text
  | _, [] => []
  | column, span :: spans =>
    let start := columnOf pattern span.start
    let count := max 1 (columnOf pattern span.stop - start)
    List.replicate (start - column) ' ' ++ List.replicate count '^' ++
      carets pattern (max column start + count) spans

/-- A line without the carriage return before its line feed. -/
def withoutReturn (line : Text) : Text :=
  if line.getLast? = some '\r' then line.dropLast else line

/-- The lines of a pattern. What follows the last line feed is a line unless it is empty. -/
def linesOf (pattern : Text) : List Text :=
  let pieces := pattern.splitOn '\n'
  let last := pieces.getLastD []
  pieces.dropLast.map withoutReturn ++ (if last.isEmpty then [] else [last])

/-- The lines from the given number on, each behind its margin and over the carets that belong
under it. -/
def annotated (pattern : Text) (spans : List Span) (margin : Nat → Text) : Nat → List Text → Text
  | _, [] => []
  | line, text :: texts =>
    let here := spans.filter fun span => lineOf pattern span.start = line
    let blank := List.replicate (margin line).length ' '
    let notes := if here.isEmpty then [] else blank ++ carets pattern 0 here ++ ['\n']
    margin line ++ text ++ '\n' :: notes ++ annotated pattern spans margin (line + 1) texts

/-- Where a span of several lines starts and ends, in words. -/
def spreadNote (pattern : Text) (span : Span) : Text :=
  let line (position : Nat) := Text.numeral (lineOf pattern position + 1)
  "on line ".toList ++ line span.start ++ " (column ".toList ++
    Text.numeral (columnOf pattern span.start + 1) ++ ") through line ".toList ++
    line span.stop ++ " (column ".toList ++ Text.numeral (columnOf pattern span.stop) ++ [')', '\n']

namespace Fault

/-- The spans of a fault, from left to right. -/
def spans (fault : Fault) : List Span :=
  match fault.earlier with
  | none => [fault.span]
  | some earlier => if earlier.start ≤ fault.span.start then [earlier, fault.span]
    else [fault.span, earlier]

/-- The pattern with carets under the fault, and the wording of the fault. A pattern of several
lines has its lines numbered, stands between two rules, and has spans of several lines described
under it. -/
def report (pattern : Text) (fault : Fault) : Text :=
  let oneLine := fault.spans.filter (·.isOnOneLine pattern)
  let spread := fault.spans.filter (!·.isOnOneLine pattern)
  let lines := linesOf pattern
  let shown :=
    if '\n' ∈ pattern then
      let width := (Text.numeral (pattern.count '\n' + 1)).length
      let margin (line : Nat) : Text :=
        let number := Text.numeral (line + 1)
        List.replicate (width - number.length) ' ' ++ number ++ [':', ' ']
      let rule := List.replicate 79 '~' ++ ['\n']
      rule ++ annotated pattern oneLine margin 0 lines ++ rule ++
        spread.flatMap (spreadNote pattern)
    else annotated pattern oneLine (fun _ => List.replicate 4 ' ') 0 lines
  "regex parse error:\n".toList ++ shown ++ "error: ".toList ++ fault.kind.message.toList

end Fault

end LogSieve.Pattern
