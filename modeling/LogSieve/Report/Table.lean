import LogSieve.Scan.Tally
import LogSieve.Text.Basic

/-!
# Tables

A table is a heading over rows of cells, drawn with box lines: a frame, a double line under the
heading, and dashed lines between columns and between rows. A column is as wide as its widest cell.
`tallyTable` shows a tally.
-/

namespace LogSieve.Report

/-- The side of a column at which a cell stands. -/
inductive Side where
  | left
  | right

/-- A cell. -/
structure Cell where
  /-- What the cell shows. -/
  text : Text
  /-- Where it stands. -/
  side : Side := .left

/-- The text of a cell in a column of the given width, with a blank on both sides. -/
def Cell.draw (cell : Cell) (width : Nat) : Text :=
  let padding := List.replicate (width - cell.text.length) ' '
  match cell.side with
  | .left => ' ' :: cell.text ++ padding ++ [' ']
  | .right => ' ' :: padding ++ cell.text ++ [' ']

/-- The characters of a horizontal line: at its start, in it, where it meets a column line, and at
its end. -/
structure Rule where
  start : Char
  fill : Char
  cross : Char
  finish : Char

/-- A horizontal line over columns of the given widths. -/
def Rule.draw (rule : Rule) (widths : List Nat) : Text :=
  let fills := widths.map fun width => List.replicate (width + 2) rule.fill
  rule.start :: [rule.cross].intercalate fills ++ [rule.finish]

/-- A row of cells. -/
def drawRow (widths : List Nat) (row : List Cell) : Text :=
  '│' :: ['┆'].intercalate (List.zipWith Cell.draw row widths) ++ ['│']

/-- The widths of columns that hold both what has the given widths and a row. -/
def widen (widths : List Nat) (row : List Cell) : List Nat :=
  List.zipWith (fun width cell => max width cell.text.length) widths row

/-- A table with a heading. -/
def drawTable (heading : List Cell) (rows : List (List Cell)) : Text :=
  let widths := rows.foldl widen (heading.map (·.text.length))
  let top : Rule := ⟨'┌', '─', '┬', '┐'⟩
  let double : Rule := ⟨'╞', '═', '╪', '╡'⟩
  let dashed : Rule := ⟨'├', '╌', '┼', '┤'⟩
  let bottom : Rule := ⟨'└', '─', '┴', '┘'⟩
  let body := (rows.map (drawRow widths)).intersperse (dashed.draw widths)
  ['\n'].intercalate
    ([top.draw widths, drawRow widths heading, double.draw widths] ++ body ++
      [bottom.draw widths])

/-- A tally with a row for each count. -/
def tallyTable (tally : Tally) : Text :=
  let row (label : String) (count : Nat) : List Cell :=
    [{ text := label.toList }, { text := Text.numeral count, side := .right }]
  drawTable [{ text := "Metric".toList }, { text := "Lines".toList }]
    [row "read" tally.read, row "parsed" tally.parsed, row "skipped" tally.skipped,
      row "matched" tally.matched]

end LogSieve.Report
