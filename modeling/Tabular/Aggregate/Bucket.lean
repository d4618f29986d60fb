import Tabular.Cell
import Tabular.Decimal.Fixed
import Tabular.Decimal.Shortest
import Tabular.Delimited.Writer

/-!
# Buckets of rows

Rows are grouped by a key; a group is counted and its measures are summed in row order.

* `Bucket.collect` groups rows, in the order in which their keys first occur.
* `Breakdown` is a list of buckets by a dimension, `Breakdown.delimited` its text.
* `thin` picks an even selection of a list that is too long, by `keptPlace`.
-/

namespace Tabular

/-- A group of rows: their key, their count, and one sum for each measure. -/
structure Bucket where
  key : String
  count : Nat
  sums : List Float
  deriving DecidableEq

namespace Bucket

/-- The group of no rows. -/
def fresh (measures : List String) (key : String) : Bucket :=
  ⟨key, 0, measures.map fun _ => 0⟩

/-- A sum with a cell added, if the cell is a number. -/
def addCell (total : Float) (c : Cell) : Float :=
  match c.toNumber? with
  | some x => total + x
  | none => total

/-- The group with one more row. -/
def add (measures : List String) (b : Bucket) (r : Row) : Bucket :=
  { b with
    count := b.count + 1
    sums := List.zipWith (fun total m => addCell total (r.cell m)) b.sums measures }

/-- Puts a row into the group of its key, a new one at the end if there is none. -/
def place (measures : List String) (key : String) (r : Row) : List Bucket → List Bucket
  | [] => [(fresh measures key).add measures r]
  | b :: bs => if b.key = key then b.add measures r :: bs else b :: place measures key r bs

/-- **Groups rows by their key**; rows without a key are left out. -/
def collect (key? : Row → Option String) (measures : List String) (rows : List Row) :
    List Bucket :=
  rows.foldl (fun bs r => (key? r).elim bs (place measures · r bs)) []

end Bucket

/-- Buckets of a dimension, with the count of those that there were before some were left
out. -/
structure Breakdown where
  dimension : String
  measures : List String
  buckets : List Bucket
  total : Nat
  deriving DecidableEq

/-- The fields of a bucket: key, count and the sums with at most two places. -/
def Bucket.fields (b : Bucket) : List String :=
  b.key :: toString b.count :: b.sums.map fun s => decimal (roundHundredths s)

namespace Breakdown

/-- Some buckets were left out. -/
def isReduced (b : Breakdown) : Bool := b.buckets.length < b.total

/-- **The buckets as delimited text**, under a line of headers; nothing without measures. -/
def delimited (b : Breakdown) : Except Delimited.Uneven String :=
  if b.measures.isEmpty then .ok ""
  else Delimited.write ((b.dimension :: "Count" :: b.measures) :: b.buckets.map Bucket.fields)

end Breakdown

/-- The place in a list of `n` members of the `i`-th one that is kept. Places are machine words: a
product that does not fit in one wraps. -/
def keptPlace (cap n i : Nat) : Nat :=
  (UInt64.ofNat i * UInt64.ofNat (n - 1) / UInt64.ofNat (cap - 1)).toNat

/-- **Thins a list** to `cap` items at an even stride, the first and the last among them. -/
def thin (cap : Nat) (items : List α) : List α :=
  if items.length ≤ cap then items
  else if cap = 0 then []
  else if cap = 1 then items.take 1
  else (List.range cap).filterMap fun i => items[keptPlace cap items.length i]?

end Tabular
