import Tabular.Console.Command
import Tabular.Formula.Column
import Tabular.Layout
import Tabular.Merge
import Tabular.Sheet
import Tabular.Text.Split
import Tabular.Decimal.Fixed

/-!
# Running a command

A command reads the loaded datasets and gives an outcome: a text, a text and a new content
for the active sheet, or a text and the name of the dataset to switch to. Nothing is changed
here.

* `Context` is what a command may read.
* `listRequest` and `generateRequest` read the arguments of the commands that have a form of
  their own.
* `Command.run` gives the outcome of a command or the error that refuses it.
* `interpret` gives the log of a console line.
-/

namespace Tabular

/-- What a command may read. -/
structure Context where
  active : Option Dataset
  datasets : List Dataset
  options : Options

namespace Context

/-- The active dataset, which many commands need. -/
def dataset (ctx : Context) : Except BenchError Dataset :=
  match ctx.active with
  | some d => .ok d
  | none => .error .noActiveDataset

/-- The active sheet of a dataset. -/
def sheetOf (d : Dataset) : Except BenchError Sheet :=
  match d.active? with
  | some s => .ok s
  | none => .error (.sheetNotFound d.activeSheet)

/-- The active sheet of the active dataset. -/
def sheet (ctx : Context) : Except BenchError Sheet := do sheetOf (← ctx.dataset)

/-- The dataset of a name. -/
def find (ctx : Context) (name : String) : Except BenchError Dataset :=
  match ctx.datasets.find? (·.name == name) with
  | some d => .ok d
  | none => .error (.datasetNotFound name (ctx.datasets.map (·.name)))

end Context

/-- New content for a sheet. -/
structure Content where
  columns : List String
  rows : List Row
  summaries : List Summary

/-- Content with its profile. -/
def Content.profiled (policy : Inference) (columns : List String) (rows : List Row) : Content :=
  ⟨columns, rows, Tabular.summaries policy rows columns⟩

/-- The sheet with new content. -/
def Sheet.withContent (s : Sheet) (c : Content) : Sheet :=
  { s with columns := c.columns, rows := c.rows, summaries := c.summaries }

/-- What a command gives. -/
inductive Outcome where
  | text (s : String)
  | replace (s : String) (content : Content)
  | switch (s : String) (dataset : String)

/-- Every name must be a column; all that are not are named at once. -/
def checkColumns (s : Sheet) (names : List String) : Except BenchError Unit :=
  let unknown := names.filter (!s.hasColumn ·)
  if unknown.isEmpty then .ok () else .error (.unknownVariables unknown)

/-- The storage type and the display format that a column is described with. -/
def ColumnType.storage : ColumnType → String × String
  | .number => ("float", "%9.0g")
  | .date => ("str10", "%10s")
  | .string => ("str", "%-9s")

/-- The line that describes a column. -/
def describeLine (s : Summary) : String :=
  padRight 13 s.name ++ " " ++ padRight 9 s.type.storage.1 ++ " " ++ s.type.storage.2

/-- Describes the columns of the active sheet, or the named ones of them. -/
def describe (ctx : Context) (names : List String) : Except BenchError String := do
  let dataset ← ctx.dataset
  let sheet ← ctx.sheet
  checkColumns sheet names
  let targets := sheet.summaries.filter fun s => names.isEmpty || names.contains s.name
  return lines <|
    [s!"Contains data from {dataset.name} (Sheet: {sheet.name})",
     s!"  obs: {sheet.rows.length}",
     s!" vars: {targets.length}",
     "",
     "Variable      Storage   Display    Value",
     "name          type      format     label      Variable label",
     rule 61] ++ targets.map describeLine

/-- The standard deviation about a mean; zero for fewer than two numbers. -/
def deviation (mean : Option Float) (xs : List Float) : Float :=
  match mean with
  | some m =>
    if xs.length > 1 then
      (sum (xs.map fun x => (x - m) * (x - m)) / .ofNat (xs.length - 1)).sqrt
    else 0
  | none => 0

/-- A number or an empty cell. -/
def Cell.ofOption (f : Float → Cell) : Option Float → Cell
  | some x => f x
  | none => .empty

/-- The line of statistics of a column. -/
def summaryRow (rows : List Row) (s : Summary) : List Cell :=
  let xs := if s.type = .number then rows.filterMap fun r => (r.cell s.name).number? else []
  [.text s.name, .number (.ofNat xs.length), .ofOption (.text <| fixed 2 ·) s.mean,
   .text (fixed 2 (deviation s.mean xs)), .ofOption .number s.min, .ofOption .number s.max]

/-- The statistics of the numeric columns, or of the named ones. -/
def summarizeTable (ctx : Context) (names : List String) : Except BenchError String := do
  let sheet ← ctx.sheet
  checkColumns sheet names
  let targets :=
    if names.isEmpty then sheet.summaries.filter (·.type == .number)
    else names.filterMap sheet.summary?
  if targets.isEmpty then return "No numeric variables to summarize."
  else
    return layout ["Variable", "Obs", "Mean", "Std. Dev.", "Min", "Max"]
      (targets.map (summaryRow sheet.rows))

/-- One end of a range of observations: the first, the last or a number. -/
def bound (total : Nat) (s : String) : Except BenchError Nat :=
  if s = "f" ∨ s = "F" then .ok 1
  else if s = "l" ∨ s = "L" then .ok total
  else
    match natural? s with
    | some n => .ok n
    | none => .error (.invalidRange s)

/-- A range of observations, `a/b` or `a`, as the count before it and the count up to its
end. -/
def range (total : Nat) (s : String) : Except BenchError (Nat × Nat) :=
  match splitFirst? (· == '/') s.toList with
  | some (a, b) => do
    let a ← bound total (.ofList a)
    let b ← bound total (.ofList b)
    return (a - 1, b)
  | none => do
    let a ← bound total s
    return (a - 1, a)

/-- How many observations are listed when no range is given, without and with columns
named. -/
def listedRows (named : Bool) : Nat := if named then 20 else 5

/-- The columns and the range that `list` is asked for. -/
def listRequest (total : Nat) (args : List String) :
    Except BenchError (List String × Nat × Nat) :=
  match args.dropWhile (· != "in") with
  | [] => .ok (args, 0, listedRows !args.isEmpty)
  | [_] => .error (.invalidRange "")
  | [_, r] => do return (args.takeWhile (· != "in"), ← range total r)
  | _ => .error (.invalidSyntax .list)

/-- The line of an observation, whose number comes first. -/
def observation (columns : List String) (n : Nat) (r : Row) : List Cell :=
  .number (.ofNat n) :: columns.map r.cell

/-- The observations after the first `start` and up to the first `stop`. -/
def observations (columns : List String) (rows : List Row) (start stop : Nat) :
    List (List Cell) :=
  ((rows.take stop).drop start).mapIdx fun i r => observation columns (start + i + 1) r

/-- Lists observations of the active sheet. -/
def listTable (ctx : Context) (args : List String) : Except BenchError String := do
  let sheet ← ctx.sheet
  let (names, start, stop) ← listRequest sheet.rows.length args
  checkColumns sheet names
  let columns := if names.isEmpty then sheet.columns else names
  if columns.isEmpty then .error (.invalidSyntax .list)
  else
    let stop := min stop sheet.rows.length
    return layout ("Obs" :: columns) (observations columns sheet.rows (min start stop) stop)

/-- A name that a new column may have: an ASCII letter or underscore, then also digits. -/
def isVariableName (s : String) : Bool :=
  match s.toList with
  | [] => false
  | c :: rest => (c.isAlpha || c == '_') && rest.all fun c => c.isAlpha || c.isDigit || c == '_'

/-- The name and the source of a new column: what stands before and after the first equals
sign of the text after the keyword. -/
def generateRequest (line : String) : Except BenchError (String × String) :=
  let rest := ((splitFirst? isBlank line.toList).map (·.2)).getD []
  match splitFirst? (· == '=') rest with
  | none => .error (.invalidSyntax .generate)
  | some (name, source) =>
    let name := trimmed (.ofList name)
    let source := trimmed (.ofList source)
    if !isVariableName name || source.isEmpty || source.toList.head? == some '=' then
      .error (.invalidSyntax .generate)
    else .ok (name, source)

/-- What is said of a new column. -/
def generatedText (name : String) (missing : Nat) : String :=
  let values := if missing = 1 then "value" else "values"
  s!"Variable {name} generated." ++
    if missing = 0 then "" else s!"\n({missing} missing {values} generated)"

/-- Adds a column computed from a formula. -/
def generateColumn (ctx : Context) (line : String) : Except BenchError Outcome := do
  let sheet ← ctx.sheet
  let (name, source) ← generateRequest line
  if sheet.hasColumn name then .error (.variableExists name)
  else
    match generate sheet.rows sheet.columns name source with
    | .error e => .error (.formula e)
    | .ok rows =>
      let missing := rows.countP fun r => (r.cell name).isMissing
      return .replace (generatedText name missing)
        (.profiled ctx.options.inference (sheet.columns ++ [name]) rows)

/-- Drops the named columns. -/
def dropColumns (ctx : Context) (names : List String) : Except BenchError Outcome := do
  let sheet ← ctx.sheet
  if names.isEmpty then .error (.invalidSyntax .drop)
  else
    checkColumns sheet names
    let kept (c : String) : Bool := !names.contains c
    return .replace s!"Dropped {names.eraseDups.length} variables."
      (.profiled ctx.options.inference (sheet.columns.filter kept) (sheet.rows.map (·.keep kept)))

/-- A name out of words; quotes are left out. -/
def unquoted (parts : List String) : String :=
  .ofList ((joined " " parts).toList.filter (· != '"'))

/-- Merges the active sheet of another dataset into the active one. -/
def mergeDataset (ctx : Context) (args : List String) : Except BenchError Outcome :=
  match args with
  | kind :: column :: word :: name :: more =>
    if kind ≠ "1:1" ∨ lowered word ≠ "using" then .error (.invalidSyntax .merge)
    else do
      let sheet ← ctx.sheet
      let other ← Context.sheetOf (← ctx.find (unquoted (name :: more)))
      let merged ← merge sheet.rows sheet.columns other.rows other.columns column
      return .replace merged.report.text
        (.profiled ctx.options.inference merged.columns merged.rows)
  | _ => .error (.invalidSyntax .merge)

/-- Switches to another dataset. -/
def changeFrame (ctx : Context) (parts : List String) : Except BenchError Outcome :=
  let name := unquoted parts
  if name.isEmpty then .error (.invalidSyntax .frame)
  else do
    let target ← ctx.find name
    return .switch s!"Switched to frame {target.name}" target.name

/-- The line of a dataset in the list of frames; a star marks the active one. -/
def frameLine (active : Option String) (d : Dataset) : String :=
  let mark := if some d.name = active then "*" else " "
  let (obs, vars) := match d.active? with
    | some s => (s.rows.length, s.columns.length)
    | none => (0, 0)
  s!"{mark} {d.name}  {obs} x {vars}; sheet {d.activeSheet}"

/-- Lists the loaded datasets. -/
def listFrames (ctx : Context) : String :=
  if ctx.datasets.isEmpty then "no frames loaded"
  else lines (ctx.datasets.map (frameLine (ctx.active.map (·.name))))

/-- **Runs a command.** -/
def Command.run (c : Command) (ctx : Context) : Except BenchError Outcome :=
  match c.keyword with
  | .describe => (describe ctx c.args).map .text
  | .summarize => (summarizeTable ctx c.args).map .text
  | .list => (listTable ctx c.args).map .text
  | .count => do return .text (toString (← ctx.sheet).rows.length)
  | .generate => generateColumn ctx c.line
  | .drop => dropColumns ctx c.args
  | .merge => mergeDataset ctx c.args
  | .frameChange => changeFrame ctx (c.args.drop 1)
  | .frameDir => .ok (.text (listFrames ctx))

/-- What a log entry is. -/
inductive LogKind where
  | command | output | error
  deriving DecidableEq, Repr

/-- An entry of the console log. -/
structure LogEntry where
  kind : LogKind
  content : String
  deriving DecidableEq, Repr

/-- What a console line gives: nothing for free text, else its log and what it changes. -/
structure Interpreted where
  handled : Bool
  logs : List LogEntry
  content : Option Content
  switchTo : Option String

/-- The log of a command, and what it changes. -/
def Interpreted.of (c : Command) (result : Except BenchError Outcome) : Interpreted :=
  let echo : LogEntry := ⟨.command, s!". {c.line}"⟩
  match result with
  | .ok (.text s) => ⟨true, [echo, ⟨.output, s⟩], none, none⟩
  | .ok (.replace s content) => ⟨true, [echo, ⟨.output, s⟩], some content, none⟩
  | .ok (.switch s name) => ⟨true, [echo, ⟨.output, s⟩], none, some name⟩
  | .error e => ⟨true, [echo, ⟨.error, e.message⟩], none, none⟩

/-- **Interprets a console line.** -/
def interpret (ctx : Context) (line : String) : Interpreted :=
  match Command.parse? line with
  | none => ⟨false, [], none, none⟩
  | some c => .of c (c.run ctx)

end Tabular
