import ScanRoster.Text.Width

/-!
# Tables

Tables with a frame of lines and rounded corners. A column is as wide as its widest line, texts
stand at the left with a space on both sides, and a line break in a cell makes the row higher.
-/

namespace ScanRoster

/-- A table: the names of its columns, and its rows. -/
structure Table where
  header : List String
  rows : List (List String)
  deriving DecidableEq

namespace Table

/-- The lines of a cell. -/
def cellLines (cell : String) : List (List Char) :=
  cell.toList.splitOnP (· == '\n')

/-- The widest line of a cell. -/
def cellWidth (cell : String) : Nat :=
  ((cellLines cell).map Text.width).foldl max 0

/-- The widths of the columns. -/
def widths (t : Table) : List Nat :=
  t.rows.foldl (fun ws row => ws.zipWith max (row.map cellWidth)) (t.header.map cellWidth)

/-- A line between rows, made of its left end, its crossings and its right end. -/
def rule (left cross right : Char) (widths : List Nat) : List Char :=
  left :: [cross].intercalate (widths.map fun w => List.replicate (w + 2) '─') ++ [right]

/-- A line of a cell, filled up to the width of its column. -/
def padded (width : Nat) (line : List Char) : List Char :=
  ' ' :: line ++ List.replicate (width - Text.width line) ' ' ++ [' ']

/-- One line of a row, with the given line of each cell. -/
def rowLine (widths : List Nat) (cells : List (List (List Char))) (i : Nat) : List Char :=
  '│' :: (widths.zip cells).flatMap fun (w, lines) => padded w (lines.getD i []) ++ ['│']

/-- The lines of a row, as many as its highest cell has. -/
def rowLines (widths : List Nat) (row : List String) : List (List Char) :=
  let cells := row.map cellLines
  let height := (cells.map List.length).foldl max 0
  (List.range height).map (rowLine widths cells)

/-- The lines of a table. One without rows ends below its header with the line that would come
before them. -/
def lines (t : Table) : List (List Char) :=
  let ws := t.widths
  let head := rule '╭' '┬' '╮' ws :: rowLines ws t.header ++ [rule '├' '┼' '┤' ws]
  if t.rows.isEmpty then head
  else head ++ t.rows.flatMap (rowLines ws) ++ [rule '╰' '┴' '╯' ws]

/-- The text of a table, without a line break at its end. -/
def text (t : Table) : String :=
  String.ofList (['\n'].intercalate t.lines)

end Table

end ScanRoster
