import Tabular.Calendar
import Tabular.Error
import Tabular.Header
import Tabular.Sheet

/-!
# Tables from spreadsheets

A worksheet is a grid of stored cells. The smallest rectangle around them makes up the table:
its first row names the columns, the others are the rows, those without a cell left out.

* `Stored.read` is the value of a stored cell; an unknown error code makes its sheet unreadable.
* `GridCell.toCell` is the table cell of a value: dates are written out.
* `readWorkbook` gives the tables of all sheets that have data.
-/

namespace Tabular

/-- A cell as a worksheet stores it. -/
inductive Stored where
  | number (text : String)
  | serial (text : String)
  | string (s : String)
  | isoDate (s : String)
  | bool (b : Bool)
  | error (code : String)
  deriving DecidableEq

/-- The value of a worksheet cell. -/
inductive GridCell where
  | empty
  | number (x : Float)
  | serial (x : Float)
  | string (s : String)
  | isoDate (s : String)
  | bool (b : Bool)
  | error (code : String)
  deriving DecidableEq

/-- The codes of failed computations. -/
def errorCodes : List String :=
  ["#DIV/0!", "#N/A", "#NAME?", "#NULL!", "#NUM!", "#REF!", "#VALUE!"]

/-- The value of a stored cell, if it can be read. A stored number without text is no cell,
and one that is no number is a string. -/
def Stored.read : Stored → Option GridCell
  | .number t =>
    if t.isEmpty then some .empty
    else some ((float? t).elim (.string t) .number)
  | .serial t =>
    if t.isEmpty then some .empty
    else some ((float? t).elim (.string t) .serial)
  | .string s => some (.string s)
  | .isoDate s => some (.isoDate s)
  | .bool b => some (.bool b)
  | .error code => if code ∈ errorCodes then some (.error code) else none

/-- The text of a value, as it stands in a header. -/
def GridCell.display : GridCell → String
  | .empty => ""
  | .number x => decimal x
  | .serial x => decimal x
  | .string s => s
  | .isoDate s => s
  | .bool b => if b then "true" else "false"
  | .error code => code

/-- A text that spells a date is written as one; a blank text is missing. -/
def dateOrText (s : String) : Cell :=
  if (trimmed s).isEmpty then .empty else .text ((normalizeDate? s).getD s)

/-- The table cell of a value. -/
def GridCell.toCell : GridCell → Cell
  | .empty => .empty
  | .number x => if x.isFinite then .number x else .text (decimal x)
  | .serial x => ((dateOfSerial? x).map fun d => Cell.text d.iso).getD .empty
  | .string s => dateOrText s
  | .isoDate s => dateOrText s
  | .bool b => .text (if b then "true" else "false")
  | .error code => .text code

/-- A worksheet: its name and its stored cells by row and column, from the upper left corner. -/
structure Worksheet where
  name : String
  cells : List (List (Option Stored))

/-- A grid of values. -/
abbrev Grid := List (List GridCell)

/-- The values of a worksheet, if all can be read. -/
def Worksheet.grid? (w : Worksheet) : Option Grid :=
  w.cells.mapM fun row => row.mapM fun
    | none => some GridCell.empty
    | some s => s.read

/-- There is a value. -/
def GridCell.isPresent (c : GridCell) : Bool := c != .empty

/-- The count of columns before the first value of a row, if it has one. -/
def leading? (row : List GridCell) : Option Nat := row.findIdx? GridCell.isPresent

/-- The count of columns up to the last value of a row. -/
def extent (row : List GridCell) : Nat :=
  (row.reverse.dropWhile (!GridCell.isPresent ·)).length

/-- The row from one column up to another, filled up with empty cells. -/
def cutRow (start stop : Nat) (row : List GridCell) : List GridCell :=
  (List.range (stop - start)).map fun i => row.getD (start + i) .empty

/-- The smallest rectangle around the values of a grid. -/
def Grid.trim (g : Grid) : Grid :=
  let blank (row : List GridCell) : Bool := row.all (!GridCell.isPresent ·)
  let rows := ((g.dropWhile blank).reverse.dropWhile blank).reverse
  match (rows.filterMap leading?).min? with
  | none => []
  | some start => rows.map (cutRow start ((rows.map extent).foldl max 0))

/-- The table of a worksheet, if it has data. -/
def Worksheet.table? (w : Worksheet) : Option Table := do
  match (← w.grid?).trim with
  | [] => none
  | header :: rows =>
    let columns := cleanHeaders (header.map GridCell.display)
    let rows := rows.filter (·.any GridCell.isPresent)
    if rows.isEmpty then none
    else
      return ⟨w.name, columns, rows.map fun r => Row.ofList (columns.zip (r.map GridCell.toCell))⟩

/-- **The tables of a workbook**, at least one. -/
def readWorkbook (sheets : List Worksheet) : Except IntakeError (List Table) :=
  match sheets.filterMap Worksheet.table? with
  | [] => .error .noData
  | tables => .ok tables

end Tabular
