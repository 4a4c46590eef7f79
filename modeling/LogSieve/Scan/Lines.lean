/-!
# Lines of bytes

Input is cut after every line feed. What stands between two cuts, without the line feed and without
one carriage return before it, is the content of a line. What follows the last line feed is a line
too unless it is empty; a source that fails never delivers it.
-/

namespace LogSieve

/-- A sequence of bytes. -/
abbrev Bytes := List UInt8

/-- Bytes that are read in order, after which reading ends or fails. -/
structure Source where
  /-- The bytes before the end. -/
  bytes : Bytes
  /-- Whether reading fails after them. -/
  fails : Bool := false

namespace Bytes

/-- The byte that ends a line. -/
def lineFeed : UInt8 := 10

/-- The byte that may stand before a line feed. -/
def carriageReturn : UInt8 := 13

/-- The bytes without one carriage return at their end. -/
def stripReturn (bytes : Bytes) : Bytes :=
  if bytes.getLast? = some carriageReturn then bytes.dropLast else bytes

/-- What stands before each line feed. -/
def terminated (bytes : Bytes) : List Bytes :=
  (bytes.splitOn lineFeed).dropLast

/-- What follows the last line feed. -/
def remainder (bytes : Bytes) : Bytes :=
  (bytes.splitOn lineFeed).getLastD []

end Bytes

/-- The contents of the lines that a source delivers. -/
def Source.lines (source : Source) : List Bytes :=
  let rest := source.bytes.remainder
  let lines :=
    if source.fails || rest.isEmpty then source.bytes.terminated
    else source.bytes.terminated ++ [rest]
  lines.map Bytes.stripReturn

end LogSieve
