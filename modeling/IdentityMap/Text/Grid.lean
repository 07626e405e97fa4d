/-
Tables drawn with lines around every cell.

A column is as wide as its widest line, with a space on either side.  A cell may have
several lines; its row is then as high as its highest cell.
-/
import IdentityMap.Text.Width

namespace IdentityMap

/-- A table with a header. -/
structure Grid where
  header : List String
  rows : List (List String)

namespace Grid

/-- The lines of a cell. -/
def cellLines (cell : String) : List String :=
  cell.splitOn "\n"

def cellWidth (cell : String) : Nat :=
  ((cellLines cell).map Width.ofText).foldl max 0

/-- The width of each column, without the spaces. -/
def widths (grid : Grid) : List Nat :=
  grid.rows.foldl (fun widths row => widths.zipWith max (row.map cellWidth))
    (grid.header.map cellWidth)

/-- A text with spaces up to a width. -/
def pad (width : Nat) (s : String) : String :=
  s ++ "".pushn ' ' (width - Width.ofText s)

/-- One line of a row. -/
def rowLine (widths : List Nat) (cells : List String) : String :=
  "│ " ++ " ┆ ".intercalate (widths.zipWith pad cells) ++ " │"

/-- The lines of a row. -/
def rowLines (widths : List Nat) (row : List String) : List String :=
  let cells := row.map cellLines
  (List.range (cells.foldl (fun height lines => max height lines.length) 0)).map fun n =>
    rowLine widths (cells.map fun lines => lines.getD n "")

/-- A line between rows, or above or below all of them. -/
def rule (left : String) (stroke : Char) (crossing right : String) (widths : List Nat) :
    String :=
  left ++ crossing.intercalate (widths.map fun width => "".pushn stroke (width + 2)) ++ right

/-- The rows with a line between each two. -/
def bodyLines (widths : List Nat) (rows : List (List String)) : List String :=
  [rule "├" '╌' "┼" "┤" widths].intercalate (rows.map (rowLines widths))

/-- The table as a text, without a line end after the last line. -/
def draw (grid : Grid) : String :=
  let widths := grid.widths
  "\n".intercalate
    (rule "┌" '─' "┬" "┐" widths :: rowLines widths grid.header ++
      rule "╞" '═' "╪" "╡" widths :: bodyLines widths grid.rows ++
      [rule "└" '─' "┴" "┘" widths])

end Grid
end IdentityMap
