import Tabular.Profile

/-!
# Sheets and datasets

A sheet is a table with its profile. A dataset is a named list of sheets, one of them
active; it is found by its name, the first one if several share it.

* `Sheet.profiled` builds a sheet with its summaries.
* `Dataset.active?` is the active sheet and `Dataset.mapActive` changes it.
-/

namespace Tabular

/-- What is fixed for a whole run: the inference policy, and how many distinct values a
categorical column has less than. -/
structure Options where
  inference : Inference
  ceiling : Nat
  deriving DecidableEq, Repr

/-- A table before it is profiled. -/
structure Table where
  name : String
  columns : List String
  rows : List Row

/-- A table with the summaries of its columns. -/
structure Sheet where
  name : String
  columns : List String
  rows : List Row
  summaries : List Summary

namespace Sheet

/-- The sheet of a table, profiled. -/
def profiled (policy : Inference) (t : Table) : Sheet :=
  ⟨t.name, t.columns, t.rows, Tabular.summaries policy t.rows t.columns⟩

/-- The sheet has a column of this name. -/
def hasColumn (s : Sheet) (name : String) : Bool := s.columns.contains name

/-- The summary of a column. -/
def summary? (s : Sheet) (name : String) : Option Summary := s.summaries.find? (·.name == name)

end Sheet

/-- A named list of sheets, one of them active. -/
structure Dataset where
  name : String
  sheets : List Sheet
  activeSheet : String

/-- Applies a function to the first member that passes a test. -/
def mapFirst (p : α → Bool) (f : α → α) : List α → List α
  | [] => []
  | a :: as => if p a then f a :: as else a :: mapFirst p f as

namespace Dataset

/-- The active sheet. -/
def active? (d : Dataset) : Option Sheet := d.sheets.find? (·.name == d.activeSheet)

/-- Changes the active sheet. -/
def mapActive (d : Dataset) (f : Sheet → Sheet) : Dataset :=
  { d with sheets := mapFirst (·.name == d.activeSheet) f d.sheets }

end Dataset

end Tabular
