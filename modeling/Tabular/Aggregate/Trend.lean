import Tabular.Aggregate.Bucket

/-!
# Rows over time

Dates are written year first, so the leading characters of a date name its month or its day,
and their order is that of time.

* `byTime` groups rows by day or month and thins the buckets down to a cap.
* `Granularity.fitting` takes days as long as they fit under their cap.
-/

namespace Tabular

/-- The length of the time that a bucket stands for. -/
inductive Granularity where
  | day | month
  deriving DecidableEq, Repr

namespace Granularity

/-- How many leading characters of a date name the time of its bucket. -/
def keyLength : Granularity → Nat
  | .day => 10
  | .month => 7

/-- How many buckets are kept. -/
def cap : Granularity → Nat
  | .day => 48
  | .month => 24

/-- The time of a cell, if it is not missing. -/
def key? (g : Granularity) (c : Cell) : Option String :=
  if c.isMissing then none else some (.ofList (c.display.toList.take g.keyLength))

/-- Days if there are not too many of them, else months. -/
def fitting (rows : List Row) (column : String) : Granularity :=
  let days := rows.filterMap fun r => Granularity.day.key? (r.cell column)
  if days.eraseDups.length ≤ Granularity.day.cap then .day else .month

end Granularity

/-- All buckets of a time column, earliest first. -/
def timeBuckets (rows : List Row) (column : String) (measures : List String) (g : Granularity) :
    List Bucket :=
  (Bucket.collect (fun r => g.key? (r.cell column)) measures rows).mergeSort
    fun a b => a.key ≤ b.key

/-- **Rows by time**: rows without a date are left out. -/
def byTime (rows : List Row) (column : String) (measures : List String) (g : Granularity) :
    Breakdown :=
  let all := timeBuckets rows column measures g
  ⟨column, measures, thin g.cap all, all.length⟩

end Tabular
