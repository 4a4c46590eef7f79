import LogSieve.Scan.Lines

/-!
# Where output goes

A sink takes bytes in order. One with limited room takes what fits of a piece that is too large,
and then fails. Writing nothing never fails.
-/

namespace LogSieve

/-- A place for output: the pieces written so far, latest first, and the room that is left. -/
structure Sink where
  /-- The pieces written, latest first. -/
  pieces : List Bytes := []
  /-- How many bytes still fit, if there is a limit. -/
  room : Option Nat := none

namespace Sink

/-- All bytes written. -/
def bytes (sink : Sink) : Bytes :=
  sink.pieces.reverse.flatten

/-- Writes a piece as far as it fits, and says whether all of it did. -/
def write (sink : Sink) (piece : Bytes) : Sink × Bool :=
  match sink.room with
  | none => ({ sink with pieces := piece :: sink.pieces }, true)
  | some room =>
    ({ pieces := piece.take room :: sink.pieces, room := some (room - piece.length) },
      piece.length ≤ room)

/-- Writes a line and then its line feed. -/
def writeLine (sink : Sink) (content : Bytes) : Sink × Bool :=
  match sink.write content with
  | (sink, true) => sink.write [Bytes.lineFeed]
  | (sink, false) => (sink, false)

end Sink

end LogSieve
