import Tabular.Aggregate.GroundTruth
import Tabular.Console.Run
import Tabular.Header

/-!
# The workbench

The workbench holds the loaded datasets, one of them active. Every operation gives a new
workbench, or is refused and changes nothing.

* `load`, `remove`, `clear` and `setActiveSheet` change what is loaded and active.
* `execute` runs a console line and takes over what it gives.
* `groundTruth` and `reasoningRequest` only read.
-/

namespace Tabular

/-- The loaded datasets, the name of the active one, and the options of the run. -/
structure Workbench where
  datasets : List Dataset
  active : Option String
  options : Options

/-- What an executed console line gives. -/
structure Executed where
  handled : Bool
  logs : List LogEntry
  dataChanged : Bool
  active : Option String
  deriving DecidableEq

/-- What the reasoning service is given with a question. -/
structure ReasoningRequest where
  question : String
  dataset : String
  sheet : String
  summaries : List Summary
  sampleRows : List Row
  groundTruth : Option String

namespace Workbench

/-- The workbench without datasets. -/
def empty (options : Options) : Workbench := ⟨[], none, options⟩

/-- The names of the loaded datasets. -/
def names (w : Workbench) : List String := w.datasets.map (·.name)

/-- The dataset of a name. -/
def find? (w : Workbench) (name : String) : Option Dataset := w.datasets.find? (·.name == name)

/-- The active dataset. -/
def activeDataset? (w : Workbench) : Option Dataset := w.active.bind w.find?

/-- The active dataset, which is asked for. -/
def activeDataset (w : Workbench) : Except BenchError Dataset :=
  match w.activeDataset? with
  | some d => .ok d
  | none => .error .noActiveDataset

/-- The complaint about a name that no dataset has. -/
def notFound (w : Workbench) (name : String) : BenchError := .datasetNotFound name w.names

/-- **Profiles tables and adds them as a dataset**, under a free name. Its first sheet is
active, and it becomes active itself if no dataset is. -/
def load (w : Workbench) (name : String) (tables : List Table) :
    Except BenchError (Workbench × Dataset) :=
  match tables with
  | [] => .error (.intake (.noSheets name))
  | first :: _ =>
    let free := freeName w.names name
    let d : Dataset := ⟨free, tables.map (Sheet.profiled w.options.inference), first.name⟩
    .ok ({ w with datasets := w.datasets ++ [d], active := w.active.or (some free) }, d)

/-- **Removes a dataset.** If it was active, the first one left becomes active. -/
def remove (w : Workbench) (name : String) : Except BenchError Workbench :=
  if name ∈ w.names then
    let left := w.datasets.eraseP (·.name == name)
    let active := if w.active = some name then left.head?.map (·.name) else w.active
    .ok { w with datasets := left, active }
  else .error (w.notFound name)

/-- **Removes all datasets.** -/
def clear (w : Workbench) : Workbench := { w with datasets := [], active := none }

/-- **Makes a sheet of a dataset its active one.** -/
def setActiveSheet (w : Workbench) (name sheet : String) : Except BenchError Workbench :=
  match w.find? name with
  | none => .error (w.notFound name)
  | some d =>
    if d.sheets.any (·.name == sheet) then
      .ok { w with datasets := mapFirst (·.name == name) ({ · with activeSheet := sheet }) w.datasets }
    else .error (.sheetNotFound sheet)

/-- What a console line may read. -/
def context (w : Workbench) : Context := ⟨w.activeDataset?, w.datasets, w.options⟩

/-- Gives the active sheet of the active dataset new content. -/
def commit (w : Workbench) (content : Content) : Workbench :=
  { w with
    datasets := mapFirst (fun d => some d.name == w.active)
      (·.mapActive (·.withContent content)) w.datasets }

/-- The active sheet of the active dataset. -/
def activeSheet? (w : Workbench) : Option Sheet := w.activeDataset?.bind Dataset.active?

/-- **Runs a console line** and takes over the content or the switch that it gives. -/
def execute (w : Workbench) (line : String) : Workbench × Executed :=
  let r := interpret w.context line
  let (w, changed) :=
    match r.content, w.activeSheet? with
    | some content, some _ => (w.commit content, true)
    | _, _ => (w, false)
  let w := { w with active := r.switchTo.or w.active }
  (w, ⟨r.handled, r.logs, changed, w.active⟩)

/-- The exact sums of the active sheet. -/
def groundTruth (w : Workbench) (scope : Scope) : Except BenchError String := do
  let sheet ← Context.sheetOf (← w.activeDataset)
  match scope with
  | .full => pure ()
  | .custom columns => checkColumns sheet columns
  (Tabular.groundTruth sheet.rows sheet.summaries scope w.options.ceiling).mapError .render

/-- A question with the profile of the active sheet, its first rows and, for a report, its
exact sums. -/
def reasoningRequest (w : Workbench) (question : String) (report : Option Scope)
    (sampleRows : Nat) : Except BenchError ReasoningRequest := do
  let d ← w.activeDataset
  let truth ← match report with
    | some scope => (w.groundTruth scope).map some
    | none => .ok none
  let sheet ← Context.sheetOf d
  return {
    question := trimmed question
    dataset := d.name
    sheet := sheet.name
    summaries := sheet.summaries
    sampleRows := sheet.rows.take sampleRows
    groundTruth := truth }

end Workbench

end Tabular
