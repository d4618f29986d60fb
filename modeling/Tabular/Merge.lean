import Tabular.Cell
import Tabular.Error
import Tabular.Text.Join
import Tabular.Text.Pad

/-!
# Merging two tables

A one-to-one left join: every master row stays in its place, and takes over the cells of the
using row with the same key. Of several using rows with one key the last one counts.

* `Cell.key?` is the key of a cell; missing cells have none.
* `Progress` is what a merge keeps on the way: `Progress.enter` puts one using row into the index,
  and `Progress.join` joins one master row. Both count what they meet.
* `merge` joins two tables and `MergeReport.text` is the account of it.
-/

namespace Tabular

/-- What keys are compared by: numbers by their bits, texts as they are. -/
inductive Key where
  | number (bits : UInt64)
  | text (s : String)
  deriving DecidableEq

/-- The key of a cell. Both zeros have the key of zero, and a missing cell has none. -/
def Cell.key? : Cell → Option Key
  | .number x => some (.number (if x == 0 then 0 else x.toBits))
  | .text s => if s.isEmpty then none else some (.text s)
  | .empty => none

/-- The key of a row in a key column. -/
def Row.key? (r : Row) (column : String) : Option Key := (r.cell column).key?

/-- The using rows by key. -/
abbrev Index := List (Key × Row)

namespace Index

/-- Stores a row under its key, in place of the row that the key had. -/
def store (k : Key) (r : Row) : Index → Index
  | [] => [(k, r)]
  | e :: es => if e.1 = k then (k, r) :: es else e :: store k r es

/-- The key of a master row that the index has, with the row of it. -/
def find? (index : Index) (column : String) (master : Row) : Option (Key × Row) :=
  (master.key? column).bind fun k => (index.lookup k).map (k, ·)

end Index

/-- The account of a merge: master rows with and without a match, using keys that no master
row has, and using rows that another one of the same key replaced. -/
structure MergeReport where
  matched : Nat := 0
  masterOnly : Nat := 0
  usingOnly : Nat := 0
  usingDuplicates : Nat := 0
  deriving DecidableEq, Repr

/-- A line of the account. -/
def reportLine (indent width : Nat) (label text : String) : String :=
  .ofList (List.replicate indent ' ') ++ padRight width label ++ text

/-- The text of the account. -/
def MergeReport.text (r : MergeReport) : String :=
  lines <|
    [reportLine 4 28 "Result" "# of obs.",
     "    " ++ rule 41,
     reportLine 4 28 "not matched" (toString (r.masterOnly + r.usingOnly)),
     reportLine 8 24 "from master" (toString r.masterOnly),
     reportLine 8 24 "from using" (toString r.usingOnly),
     "",
     reportLine 4 28 "matched" (toString r.matched)] ++
    (if r.usingDuplicates > 0 then
      [reportLine 4 28 "duplicate using keys" (toString r.usingDuplicates)] else []) ++
    ["    " ++ rule 41]

/-- What a merge gives. -/
structure Merged where
  rows : List Row
  columns : List String
  report : MergeReport

/-- A master row with the cells of its using row over it; the key cell stays the master's. -/
def joinRow (column : String) (master other : Row) : Row :=
  (master.overlay other).insert column (master.cell column)

/-- What a merge keeps on its way through the rows: the account so far, the index of the using rows,
and the keys that master rows were matched by, each once. -/
structure Progress where
  report : MergeReport := {}
  index : Index := []
  hit : List Key := []

namespace Progress

/-- Enters a using row into the index. It counts as a duplicate if its key was there, and a row
without a key is passed over. -/
def enter (column : String) (p : Progress) (r : Row) : Progress :=
  match r.key? column with
  | none => p
  | some k =>
    { p with
      index := p.index.store k r
      report.usingDuplicates :=
        if (p.index.lookup k).isSome then p.report.usingDuplicates + 1
        else p.report.usingDuplicates }

/-- Joins a master row with the using row of its key, and counts it as matched or not. -/
def join (column : String) (p : Progress) (master : Row) : Row × Progress :=
  match p.index.find? column master with
  | some (k, other) =>
    (joinRow column master other,
      { p with report.matched := p.report.matched + 1, hit := p.hit.insert k })
  | none => (master, { p with report.masterOnly := p.report.masterOnly + 1 })

/-- Joins the master rows one after another. -/
def joinAll (column : String) (p : Progress) : List Row → List Row × Progress
  | [] => ([], p)
  | master :: masters =>
    let joined := p.join column master
    let rest := joined.2.joinAll column masters
    (joined.1 :: rest.1, rest.2)

/-- The account at the end, with the keys of the index that no master row hit. -/
def account (p : Progress) : MergeReport :=
  { p.report with usingOnly := p.index.countP fun e => e.1 ∉ p.hit }

end Progress

/-- The master columns, then the using columns that are new. -/
def mergeColumns (master other : List String) : List String :=
  other.foldl (fun columns c => if c ∈ columns then columns else columns ++ [c]) master

/-- **Joins a using table onto a master table by a key column**, which both must have. -/
def merge (masterRows : List Row) (masterColumns : List String) (usingRows : List Row)
    (usingColumns : List String) (column : String) : Except BenchError Merged :=
  if column ∉ masterColumns then .error (.keyNotFound column .master)
  else if column ∉ usingColumns then .error (.keyNotFound column .used)
  else
    let entered := usingRows.foldl (Progress.enter column) {}
    let joined := entered.joinAll column masterRows
    .ok {
      rows := joined.1
      columns := mergeColumns masterColumns usingColumns
      report := joined.2.account }

end Tabular
