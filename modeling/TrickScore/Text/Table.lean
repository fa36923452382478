import TrickScore.Text.Split
import TrickScore.Text.Width

/-!
# Tables

A table of text cells drawn with plain characters. A cell may hold several lines; its row is as high
as its highest cell. A column is as wide as its widest line, and every line has one blank on either
side.
-/

namespace TrickScore.Text

/-- The side on which a line stands in its column. -/
inductive Alignment where
  | left
  | right
  deriving DecidableEq

/-- Rows of cells. Each row has one cell for each alignment. -/
structure Table where
  alignments : List Alignment
  rows : List (List String)

/-- The lines of a cell. -/
def cellLines (cell : String) : List (List Char) :=
  split '\n' cell.toList

/-- A line in a column of the given width. -/
def padLine (alignment : Alignment) (columns : Nat) (line : List Char) : List Char :=
  let gap := List.replicate (columns - width line) ' '
  match alignment with
  | .left => ' ' :: line ++ gap ++ [' ']
  | .right => ' ' :: gap ++ line ++ [' ']

namespace Table

/-- How wide a column is: as its widest line, and never nothing. -/
def columnWidth (table : Table) (column : Nat) : Nat :=
  table.rows.foldl (fun widest row =>
    (cellLines (row.getD column "")).foldl (fun widest line => max widest (width line)) widest) 1

/-- The alignment and the width of each column. -/
def columns (table : Table) : List (Alignment × Nat) :=
  table.alignments.zipIdx.map fun (alignment, column) => (alignment, table.columnWidth column)

/-- A line across the table, with a mark at its ends and a cross between the columns. -/
def rule (edge : Char) (columns : List (Alignment × Nat)) : List Char :=
  edge :: join '+' (columns.map fun (_, columns) => List.replicate (columns + 2) '-') ++ [edge]

/-- A line of a row, made up of the lines of its cells with that number. A cell with fewer lines is
blank there. -/
def rowLine (columns : List (Alignment × Nat)) (cells : List (List (List Char))) (number : Nat) :
    List Char :=
  '|' :: join '|' (List.zipWith
    (fun column lines => padLine column.1 column.2 (lines.getD number [])) columns cells) ++ ['|']

/-- The lines of a row, which is as high as its highest cell. -/
def rowLines (columns : List (Alignment × Nat)) (row : List String) : List (List Char) :=
  let cells := row.map cellLines
  let height := cells.foldl (fun height lines => max height lines.length) 1
  (List.range height).map (rowLine columns cells)

/-- The whole table, line by line: an outer rule above and below, an inner one between two rows. -/
def lines (table : Table) : List (List Char) :=
  let columns := table.columns
  let outer := rule '+' columns
  let inner := rule '|' columns
  outer :: [inner].intercalate (table.rows.map (rowLines columns)) ++ [outer]

/-- The text of a table, each line ended. -/
def render (table : Table) : String :=
  String.ofList (table.lines.flatMap fun line => line ++ ['\n'])

end Table

end TrickScore.Text
