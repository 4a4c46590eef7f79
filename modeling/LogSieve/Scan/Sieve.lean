import LogSieve.Filter.Verdict
import LogSieve.Record.Line
import LogSieve.Scan.Sink
import LogSieve.Scan.Tally
import LogSieve.Text.Utf8

/-!
# Sieving lines

A scan reads a source line by line and writes the selected lines to a sink. A line is selected if
it gives a record and the verdict of the filter on it differs from `invert`; its bytes are written
as they came. The scan stops at the first line that does not fit into the sink, or where the source
fails, and then has no tally.
-/

namespace LogSieve

/-- A filter with everything that decides what becomes of a line. -/
structure Sieve where
  /-- The condition on records. -/
  filter : Expr
  /-- How lines are read. -/
  rules : InputRules := {}
  /-- Select the records that do not satisfy the filter. -/
  invert : Bool := false
  /-- Count selected lines without writing them. -/
  countOnly : Bool := false

/-- Why a scan stopped early. -/
inductive ScanError where
  /-- The source failed. -/
  | read
  /-- The sink failed. -/
  | write
  deriving DecidableEq, Repr

namespace ScanError

/-- The wording of the error. -/
def message : ScanError → Text
  | read => "read failed".toList
  | write => "write failed".toList

end ScanError

namespace Sieve

/-- What becomes of a line with the given content. Bytes that are not UTF-8 do not keep a line from
being read. -/
def fate (sieve : Sieve) (content : Bytes) : LineFate :=
  match Record.ofLine? sieve.rules (Utf8.decodeLossy content) with
  | none => .skipped
  | some record => if sieve.filter.holds record != sieve.invert then .selected else .passed

/-- Scans lines, going on from a tally and a sink. -/
def scanLines (sieve : Sieve) : List Bytes → Tally → Sink → Except ScanError Tally × Sink
  | [], tally, sink => (.ok tally, sink)
  | content :: contents, tally, sink =>
    let fate := sieve.fate content
    let tally := tally.count fate
    if fate = .selected && !sieve.countOnly then
      match sink.writeLine content with
      | (sink, true) => scanLines sieve contents tally sink
      | (sink, false) => (.error .write, sink)
    else scanLines sieve contents tally sink

/-- Scans a source into a sink. -/
def scan (sieve : Sieve) (source : Source) (sink : Sink) : Except ScanError Tally × Sink :=
  match sieve.scanLines source.lines {} sink with
  | (.ok tally, sink) => (if source.fails then .error .read else .ok tally, sink)
  | stopped => stopped

end Sieve

end LogSieve
