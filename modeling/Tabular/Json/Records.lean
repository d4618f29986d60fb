import Tabular.Aggregate.GroundTruth
import Tabular.Console.Run
import Tabular.Json.Decode
import Tabular.Workbench

/-!
# The JSON form of records

How rows, summaries, sheets, datasets, scopes, options and log entries are read from JSON
documents, and how what the workbench tells about itself is written.

* The decoders are named `ofDocument`; absent members with a null form read as null.
* The writers are named `toJson`. A number that is not finite is written as null.
-/

namespace Tabular

open Json

/-- The name of a column type. -/
def ColumnType.name : ColumnType → String
  | .number => "number"
  | .string => "string"
  | .date => "date"

/-- The column type of a name. -/
def ColumnType.ofName? : String → Option ColumnType
  | "number" => some .number
  | "string" => some .string
  | "date" => some .date
  | _ => none

/-- The name of an inference policy. -/
def Inference.name : Inference → String
  | .first => "first"
  | .majority => "majority"

/-- The inference policy of a name. -/
def Inference.ofName? : String → Option Inference
  | "first" => some .first
  | "majority" => some .majority
  | _ => none

/-- The name of a kind of log entry. -/
def LogKind.name : LogKind → String
  | .command => "command"
  | .output => "output"
  | .error => "error"

/-- The kind of log entry of a name. -/
def LogKind.ofName? : String → Option LogKind
  | "command" => some .command
  | "output" => some .output
  | "error" => some .error
  | _ => none

/-- A cell: null, a number or a string. -/
def Cell.ofDocument : Decoder Cell
  | .null => .ok .empty
  | .text (some s) => .ok (.text s)
  | .number n => (Decoder.float (.number n)).map .number
  | d => .error d.unfit

/-- The cells of a row by name. -/
def Row.cellsOf : List (Option String × Document) → Except Fault (List (String × Cell))
  | [] => .ok []
  | (none, _) :: _ => .error .malformed
  | (some name, d) :: ms => do return (name, ← Cell.ofDocument d) :: (← cellsOf ms)

/-- A row: an object of cells. -/
def Row.ofDocument : Decoder Row
  | .object ms => (Row.cellsOf ms).map Row.ofList
  | d => .error d.unfit

/-- The members of a summary that have been met. -/
structure Summary.Draft where
  name : Option String := none
  type : Option ColumnType := none
  min : Option (Option Float) := none
  max : Option (Option Float) := none
  mean : Option (Option Float) := none
  median : Option (Option Float) := none
  distinct : Option (Option Nat) := none
  missing : Option Nat := none
  obs : Option Nat := none
  sample : Option (List Cell) := none

/-- How a summary is read. -/
def Summary.record : Record Summary.Draft Summary where
  fields :=
    ["name", "type", "min", "max", "mean", "median", "distinct", "missing", "obs", "sample"]
  required := 10
  start := {}
  store s key d :=
    let float := Decoder.nullable Decoder.float
    match key with
    | "name" => do return { s with name := ← fill s.name Decoder.string d }
    | "type" => do return { s with type := ← fill s.type (Decoder.variant ColumnType.ofName?) d }
    | "min" => do return { s with min := ← fill s.min float d }
    | "max" => do return { s with max := ← fill s.max float d }
    | "mean" => do return { s with mean := ← fill s.mean float d }
    | "median" => do return { s with median := ← fill s.median float d }
    | "distinct" => do
      return { s with distinct := ← fill s.distinct (Decoder.nullable Decoder.count) d }
    | "missing" => do return { s with missing := ← fill s.missing Decoder.count d }
    | "obs" => do return { s with obs := ← fill s.obs Decoder.count d }
    | _ => do return { s with sample := ← fill s.sample (Decoder.list Cell.ofDocument) d }
  finish s := do
    return {
      name := ← s.name, type := ← s.type
      min := s.min.join, max := s.max.join, mean := s.mean.join, median := s.median.join
      distinct := s.distinct.join, missing := ← s.missing, obs := ← s.obs, sample := ← s.sample }

/-- The members of a sheet that have been met. -/
structure Sheet.Draft where
  name : Option String := none
  columns : Option (List String) := none
  rows : Option (List Row) := none
  summaries : Option (List Summary) := none

/-- How a sheet is read. -/
def Sheet.record : Record Sheet.Draft Sheet where
  fields := ["name", "columns", "rows", "summaries"]
  required := 4
  start := {}
  store s key d :=
    match key with
    | "name" => do return { s with name := ← fill s.name Decoder.string d }
    | "columns" => do
      return { s with columns := ← fill s.columns (Decoder.list Decoder.string) d }
    | "rows" => do return { s with rows := ← fill s.rows (Decoder.list Row.ofDocument) d }
    | _ => do
      return { s with summaries := ← fill s.summaries (Decoder.list Summary.record.decode) d }
  finish s := do return ⟨← s.name, ← s.columns, ← s.rows, ← s.summaries⟩

/-- The members of a dataset that have been met. -/
structure Dataset.Draft where
  name : Option String := none
  sheets : Option (List Sheet) := none
  activeSheet : Option String := none

/-- How a dataset is read. -/
def Dataset.record : Record Dataset.Draft Dataset where
  fields := ["name", "sheets", "active_sheet"]
  required := 3
  start := {}
  store s key d :=
    match key with
    | "name" => do return { s with name := ← fill s.name Decoder.string d }
    | "sheets" => do
      return { s with sheets := ← fill s.sheets (Decoder.list Sheet.record.decode) d }
    | _ => do return { s with activeSheet := ← fill s.activeSheet Decoder.string d }
  finish s := do return ⟨← s.name, ← s.sheets, ← s.activeSheet⟩

/-- The members of options that have been met. -/
structure Options.Draft where
  inference : Option Inference := none
  ceiling : Option Nat := none

/-- How options are read. -/
def Options.record : Record Options.Draft Options where
  fields := ["type_inference", "category_ceiling"]
  required := 2
  start := {}
  store s key d :=
    match key with
    | "type_inference" => do
      return { s with inference := ← fill s.inference (Decoder.variant Inference.ofName?) d }
    | _ => do return { s with ceiling := ← fill s.ceiling Decoder.count d }
  finish s := do return ⟨← s.inference, ← s.ceiling⟩

/-- The members of a log entry that have been met. -/
structure LogEntry.Draft where
  kind : Option LogKind := none
  content : Option String := none

/-- How a log entry is read. -/
def LogEntry.record : Record LogEntry.Draft LogEntry where
  fields := ["kind", "content"]
  required := 2
  start := {}
  store s key d :=
    match key with
    | "kind" => do return { s with kind := ← fill s.kind (Decoder.variant LogKind.ofName?) d }
    | _ => do return { s with content := ← fill s.content Decoder.string d }
  finish s := do return ⟨← s.kind, ← s.content⟩

/-- The two tags of a scope; `true` is the one with columns. -/
def Scope.isCustom? : String → Option Bool
  | "full" => some false
  | "custom" => some true
  | _ => none

/-- The members of a scope that have been met. The columns are kept as they stand until the
tag is known. -/
structure Scope.Draft where
  custom : Option Bool := none
  columns : Option Document := none

/-- The scope of a tag and its columns; the full scope has none. -/
def Scope.ofParts? (custom : Bool) (columns : Option Document) : Option Scope :=
  match custom, columns with
  | false, none => some .full
  | false, some .null => some .full
  | true, some d => ((Decoder.list Decoder.string) d).toOption.map .custom
  | _, _ => none

/-- How a scope is read. -/
def Scope.record : Record Scope.Draft Scope where
  fields := ["scope", "vars"]
  required := 2
  start := {}
  store s key d :=
    match key with
    | "scope" => do return { s with custom := ← fill s.custom (Decoder.variant isCustom?) d }
    | _ => do return { s with columns := ← fill s.columns .ok d }
  finish s := do Scope.ofParts? (← s.custom) s.columns

namespace Cell

/-- A cell as JSON. -/
def toJson : Cell → Json
  | .empty => .null
  | .number x => .ofFloat x
  | .text s => .text s

end Cell

/-- A row as JSON. -/
def Row.toJson (r : Row) : Json := .object (r.entries.map fun e => (e.1, e.2.toJson))

/-- A summary as JSON. -/
def Summary.toJson (s : Summary) : Json :=
  .object [
    ("name", .text s.name), ("type", .text s.type.name),
    ("min", .ofOption .ofFloat s.min), ("max", .ofOption .ofFloat s.max),
    ("mean", .ofOption .ofFloat s.mean), ("median", .ofOption .ofFloat s.median),
    ("distinct", .ofOption .ofNat s.distinct), ("missing", .ofNat s.missing),
    ("obs", .ofNat s.obs), ("sample", .ofList Cell.toJson s.sample)]

/-- A scope as JSON. -/
def Scope.toJson : Scope → Json
  | .full => .object [("scope", .text "full")]
  | .custom columns => .object [("scope", .text "custom"), ("vars", .ofList .text columns)]

/-- Options as JSON. -/
def Options.toJson (o : Options) : Json :=
  .object [("type_inference", .text o.inference.name), ("category_ceiling", .ofNat o.ceiling)]

/-- A log entry as JSON. -/
def LogEntry.toJson (e : LogEntry) : Json :=
  .object [("kind", .text e.kind.name), ("content", .text e.content)]

/-- A request to the reasoning service as JSON. -/
def ReasoningRequest.toJson (r : ReasoningRequest) : Json :=
  .object [
    ("question", .text r.question), ("dataset", .text r.dataset), ("sheet", .text r.sheet),
    ("summaries", .ofList Summary.toJson r.summaries),
    ("sample_rows", .ofList Row.toJson r.sampleRows),
    ("ground_truth", .ofOption .text r.groundTruth)]

/-- What an executed console line gives, as the members of an object. -/
def Executed.members (e : Executed) : List (String × Json) :=
  [("handled", .bool e.handled), ("logs", .ofList LogEntry.toJson e.logs),
   ("data_changed", .bool e.dataChanged), ("active", .ofOption .text e.active)]

end Tabular
