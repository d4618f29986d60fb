import Tabular.Aggregate.Category
import Tabular.Aggregate.Trend
import Tabular.Text.Join

/-!
# Ground truth

The exact sums that a report quotes: one table over time and one for each categorical column,
with the numeric columns for measures. A scope may select columns; the text shows nothing of
numeric and categorical columns outside it.

* `Scope.allows` is the selection.
* `primaryDate?` is the column of the table over time.
* `groundTruth` is the whole text.
-/

namespace Tabular

/-- The columns that a report is about. -/
inductive Scope where
  | full
  | custom (columns : List String)
  deriving DecidableEq, Repr

/-- A column is in the scope. -/
def Scope.allows : Scope → String → Bool
  | .full, _ => true
  | .custom columns, name => columns.contains name

/-- The names of the columns of a type. -/
def columnsOf (type : ColumnType) (summaries : List Summary) : List String :=
  (summaries.filter (·.type == type)).map (·.name)

/-- The first date column, before it the first that was selected. -/
def primaryDate? (scope : Scope) (dates : List String) : Option String :=
  match scope with
  | .full => dates.head?
  | .custom columns => (dates.find? columns.contains).or dates.head?

/-- A table under its title. -/
def titled (title column : String) (b : Breakdown) : Except Delimited.Uneven String := do
  return s!"#### {title} Data (Aggregated by {column})\n" ++ (← b.delimited) ++ "\n"

/-- The table over time, if there are dates. -/
def trendSection (rows : List Row) (measures : List String) (date : Option String) :
    Except Delimited.Uneven String :=
  match date with
  | some column =>
    titled "Trend" column (byTime rows column measures (Granularity.fitting rows column))
  | none => .ok ""

/-- What stands above the tables. -/
def groundTruthHead : String :=
  "### GROUND TRUTH DATA (Deterministic Aggregations)\n" ++
  "Use the data below to populate tables and commentary. DO NOT calculate your own sums.\n\n"

/-- **The exact sums of a profiled table**, as text. -/
def groundTruth (rows : List Row) (summaries : List Summary) (scope : Scope) (ceiling : Nat) :
    Except Delimited.Uneven String :=
  let measures := (columnsOf .number summaries).filter scope.allows
  let categories :=
    (summaries.filter fun s => s.isCategorical ceiling && scope.allows s.name).map (·.name)
  if measures.isEmpty then .ok "No numeric variables found for aggregation."
  else do
    let trend ← trendSection rows measures (primaryDate? scope (columnsOf .date summaries))
    let groups ← categories.mapM fun c => titled "Group" c (byCategory rows c measures)
    return groundTruthHead ++ trend ++ concat groups

end Tabular
