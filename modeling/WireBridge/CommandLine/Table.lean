import WireBridge.Text.Lines
import WireBridge.Text.Wrap

/-!
# Tables

A table is a list of rows of cells, which are texts. `tableLines` writes it out: every column is as wide as the
widest line of its cells and two columns of space follow each, also the last. A cell of several lines makes its row
as high.

A line of a cell ends at every line end when its width is taken, but is written up to its line feed, with its tabs
expanded: what is then too wide for the column goes on in the next line.
-/

set_option autoImplicit false

namespace WireBridge

/-- The width of the widest line of a cell. -/
def cellColumns (cell : String) : Nat := ((Text.splitLines cell.toList).map Text.width).foldl max 0

/-- The lines of a cell in a column of some width. -/
def cellLines (columns : Nat) (cell : String) : List (List Char) :=
  (Text.splitAt '\n' cell.toList).flatMap (Text.wrapLine columns)

/-- The larger of two widths, column by column. -/
def maxWidths : List Nat → List Nat → List Nat
  | [], ws => ws
  | vs, [] => vs
  | v :: vs, w :: ws => max v w :: maxWidths vs ws

def columnWidths (rows : List (List String)) : List Nat := (rows.map fun r => r.map cellColumns).foldl maxWidths []

/-- A text in a column of some width, with the space after it. -/
def padCell (columns : Nat) (s : List Char) : String :=
  String.ofList s ++ Text.spaces (columns + 2 - Text.width s)

/-- A line of a row, from the lines of its cells. -/
def rowLine (widths : List Nat) (row : List (List (List Char))) (n : Nat) : String :=
  String.join (List.zipWith (fun w lines => padCell w (lines.getD n [])) widths row)

def rowLines (widths : List Nat) (row : List String) : List String :=
  let cells := List.zipWith cellLines widths row
  (List.range ((cells.map List.length).foldl max 0)).map (rowLine widths cells)

def tableLines (rows : List (List String)) : List String := rows.flatMap (rowLines (columnWidths rows))

end WireBridge
