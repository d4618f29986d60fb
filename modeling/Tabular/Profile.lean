import Tabular.Calendar
import Tabular.Cell

/-!
# Profiles of columns

A column is described by a summary: its type, inferred from its cells under a policy, the
counts of present and missing cells, and statistics that fit the type.

* `inferType` is the policy: the first cell decides, or four fifths of the leading ones.
* `summarize` describes one column, `summaries` every column in order.
* Statistics are taken over the numbers in their total order, so the order of the rows does
  not matter.
-/

namespace Tabular

/-- The type of a column. -/
inductive ColumnType where
  | number | string | date
  deriving DecidableEq, Repr

/-- How the type of a column is inferred. -/
inductive Inference where
  | first | majority
  deriving DecidableEq, Repr

/-- The summary of a column. Numbers have the four statistics, other types a count of
distinct cells. -/
structure Summary where
  name : String
  type : ColumnType
  min : Option Float
  max : Option Float
  mean : Option Float
  median : Option Float
  distinct : Option Nat
  missing : Nat
  obs : Nat
  sample : List Cell
  deriving DecidableEq

/-- How many cells a summary quotes. -/
def sampleSize : Nat := 5

/-- How many cells the majority is taken over. -/
def typedCells : Nat := 100

/-- The type that a single cell speaks for. -/
def Cell.type : Cell → ColumnType
  | .number _ => .number
  | .text s => if isStrictDate s then .date else .string
  | .empty => .string

/-- At least four fifths of the cells have a type. -/
def mostAre (t : ColumnType) (cells : List Cell) : Bool :=
  4 * cells.length ≤ 5 * cells.countP (·.type == t)

/-- **The type of a column** with given present cells; an empty column holds strings. -/
def inferType (policy : Inference) (cells : List Cell) : ColumnType :=
  match policy with
  | .first => (cells.head?.map Cell.type).getD .string
  | .majority =>
    let leading := cells.take typedCells
    if leading.isEmpty then .string
    else if mostAre .number leading then .number
    else if mostAre .date leading then .date
    else .string

/-- Numbers in their total order. -/
def ordered (xs : List Float) : List Float := xs.mergeSort totalLe

/-- The sum from left to right; an empty sum is `-0`. -/
def sum (xs : List Float) : Float := xs.foldl (· + ·) (-0.0)

/-- The mean of at least one number. -/
def mean (xs : List Float) : Float := sum xs / .ofNat xs.length

/-- The middle of ordered numbers, or the mean of the two middle ones. -/
def median (xs : List Float) : Float :=
  let mid := xs.length / 2
  if xs.length % 2 = 1 then xs.getD mid 0 else (xs.getD (mid - 1) 0 + xs.getD mid 0) / 2

/-- The cells of a column that are not missing, in row order. -/
def presentCells (rows : List Row) (name : String) : List Cell :=
  (rows.map (·.cell name)).filter (!·.isMissing)

/-- **The summary of one column.** -/
def summarize (policy : Inference) (rows : List Row) (name : String) : Summary :=
  let cells := presentCells rows name
  let type := inferType policy cells
  let numbers := if type = .number then ordered (cells.filterMap Cell.number?) else []
  let known := !numbers.isEmpty
  { name, type
    min := numbers.head?
    max := numbers.getLast?
    mean := if known then some (mean numbers) else none
    median := if known then some (median numbers) else none
    distinct := if type = .number then none else some (cells.map Cell.display).eraseDups.length
    missing := rows.length - cells.length
    obs := cells.length
    sample := cells.take sampleSize }

/-- **The summaries of the columns**, in column order. -/
def summaries (policy : Inference) (rows : List Row) (columns : List String) : List Summary :=
  columns.map (summarize policy rows)

end Tabular
