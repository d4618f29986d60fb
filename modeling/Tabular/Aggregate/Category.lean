import Tabular.Aggregate.Bucket
import Tabular.Profile

/-!
# Rows by category

* `byCategory` groups rows by the text of a cell and keeps the largest groups.
* `Summary.isCategorical` says which columns are worth grouping by.
-/

namespace Tabular

/-- How many groups are kept. -/
def topGroups : Nat := 10

/-- The category of a missing cell. -/
def unknownCategory : String := "Unknown"

/-- The category of a cell. -/
def Cell.category (c : Cell) : String := if c.isMissing then unknownCategory else c.display

/-- All groups of a column, in the order of their first rows. -/
def categoryBuckets (rows : List Row) (column : String) (measures : List String) : List Bucket :=
  Bucket.collect (fun r => some (r.cell column).category) measures rows

/-- **Rows by category**: the largest groups, of equal ones those that come first. -/
def byCategory (rows : List Row) (column : String) (measures : List String) : Breakdown :=
  let all := categoryBuckets rows column measures
  let ranked := all.mergeSort fun a b => b.count ≤ a.count
  ⟨column, measures, ranked.take topGroups, all.length⟩

/-- A column of strings with less than so many distinct ones. -/
def Summary.isCategorical (s : Summary) (ceiling : Nat) : Bool :=
  s.type == .string && s.distinct.getD 0 < ceiling

end Tabular
