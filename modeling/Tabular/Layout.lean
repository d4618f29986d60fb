import Tabular.Cell
import Tabular.Text.Join
import Tabular.Text.Pad

/-!
# Tables as text

A table is set in columns of fixed width, flush right, under a line of headers and a rule.

* `columnWidth` leaves at least two blanks before every cell.
* `layout` is the whole text; cells beyond the headers are left out.
-/

namespace Tabular

/-- No column is narrower, its blanks aside. -/
def leastWidth : Nat := 10

/-- The blanks that every column adds. -/
def gutter : Nat := 2

/-- The width of a cell; an empty cell does not widen its column. -/
def Cell.width : Cell → Nat
  | .empty => 0
  | c => c.display.toList.length

/-- The greatest of some numbers, zero if there is none. -/
def widest (ns : List Nat) : Nat := ns.foldl max 0

/-- The width of the `i`-th column. -/
def columnWidth (rows : List (List Cell)) (i : Nat) (header : String) : Nat :=
  max (max header.toList.length (widest (rows.map fun r => (r[i]?.map Cell.width).getD 0)))
    leastWidth + gutter

/-- The widths of the columns. -/
def columnWidths (headers : List String) (rows : List (List Cell)) : List Nat :=
  headers.mapIdx fun i h => columnWidth rows i h

/-- The width of a table. -/
def tableWidth : List Nat → Nat
  | [] => 0
  | w :: ws => w + tableWidth ws

/-- One line of a table: the cells of a row, an empty one for each that is wanting. -/
def rowLine (widths : List Nat) (row : List Cell) : String :=
  concat (widths.mapIdx fun i w => padLeft w (row.getD i .empty).display)

/-- The line of headers. -/
def headerLine (widths : List Nat) (headers : List String) : String :=
  concat (List.zipWith padLeft widths headers)

/-- **A table as text.** -/
def layout (headers : List String) (rows : List (List Cell)) : String :=
  if headers.isEmpty then ""
  else
    let widths := columnWidths headers rows
    headerLine widths headers ++ "\n" ++ rule (tableWidth widths) ++ "\n" ++ lines (rows.map (rowLine widths))

end Tabular
