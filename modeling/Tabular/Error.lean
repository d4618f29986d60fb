import Tabular.Delimited.Writer
import Tabular.Formula.Tree
import Tabular.Text.Join

/-!
# Why an operation is refused

* `IntakeError` tells why a file cannot be read, `ReplyError` why a reply cannot.
* `BenchError` tells why an operation on the workbench is refused, a command included.
* The functions `message` hold all wordings.
-/

namespace Tabular

/-- Why a file gives no tables. -/
inductive IntakeError where
  | header
  | malformed
  | notWorkbook
  | noData
  | unsupported (format : String)
  | noSheets (name : String)
  deriving DecidableEq, Repr

/-- The wording of an intake error. -/
def IntakeError.message : IntakeError → String
  | .header => "failed to read CSV header"
  | .malformed => "malformed CSV"
  | .notWorkbook => "failed to open Excel file"
  | .noData => "no valid data found in Excel file"
  | .unsupported format => s!"unsupported file format '{format}'"
  | .noSheets name => s!"{name} contains no sheets"

/-- Why a reply of the reasoning service is not usable. -/
inductive ReplyError where
  | noObject (reply : String)
  | unreadable (object : String)
  deriving DecidableEq, Repr

/-- The wording of a reply error. -/
def ReplyError.message : ReplyError → String
  | .noObject reply => s!"no JSON found in reply: {reply}"
  | .unreadable object => s!"failed to parse '{object}'"

/-- The commands with an argument form of their own. -/
inductive Usage where
  | list | generate | drop | merge | frame
  deriving DecidableEq, Repr

/-- The argument form of a command. -/
def Usage.text : Usage → String
  | .list => "list [varlist] [in a/b]"
  | .generate => "generate newvar = expression"
  | .drop => "drop varlist"
  | .merge => "merge 1:1 varname using datasetname"
  | .frame => "frame change name | frame dir"

/-- The two tables of a merge. -/
inductive Side where
  | master | used
  deriving DecidableEq, Repr

/-- The name of a side. -/
def Side.text : Side → String
  | .master => "master"
  | .used => "using"

/-- Why an operation on the workbench is refused. -/
inductive BenchError where
  | noActiveDataset
  | sheetNotFound (name : String)
  | unknownVariables (names : List String)
  | invalidSyntax (usage : Usage)
  | invalidRange (text : String)
  | variableExists (name : String)
  | datasetNotFound (name : String) (loaded : List String)
  | keyNotFound (key : String) (side : Side)
  | formula (e : FormulaError)
  | intake (e : IntakeError)
  | reply (e : ReplyError)
  | render (e : Delimited.Uneven)
  deriving DecidableEq, Repr

/-- The wording of a bench error. -/
def BenchError.message : BenchError → String
  | .noActiveDataset => "no dataset loaded"
  | .sheetNotFound name => s!"sheet '{name}' not found"
  | .unknownVariables names => s!"variable not found: {commaSeparated names}"
  | .invalidSyntax usage => s!"invalid syntax. Usage: {usage.text}"
  | .invalidRange text => s!"invalid range '{text}'"
  | .variableExists name => s!"variable {name} already defined"
  | .datasetNotFound name loaded =>
    let available := if loaded.isEmpty then "(none)" else commaSeparated loaded
    s!"dataset '{name}' not found. Available: {available}"
  | .keyNotFound key side => s!"key variable {key} not found in {side.text} data"
  | .formula e => s!"error generating variable: {e.message}"
  | .intake e => s!"failed to read file: {e.message}"
  | .reply e => s!"invalid reasoning reply: {e.message}"
  | .render e => s!"failed to render aggregate table: {e.message}"

end Tabular
