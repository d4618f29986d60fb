import Tabular.Intake.Csv
import Tabular.Intake.Spreadsheet
import Tabular.Text.Case
import Tabular.Text.Split

/-!
# File formats

A format is named outright or by the extension of a file name. Spreadsheet files hold an
archive. How archives are opened is not said here, so what opens them is given with a file.

* `FileFormat.named` knows the names of formats, in any ASCII letter case.
* `Opener` is what opens archives.
* `readTables` reads the tables of a file.
-/

namespace Tabular

/-- The formats of files. -/
inductive FileFormat where
  | csv | xlsx
  deriving DecidableEq, Repr

namespace FileFormat

/-- The format of a name. -/
def named (name : String) : Except IntakeError FileFormat :=
  match lowered name with
  | "csv" | "txt" => .ok .csv
  | "xlsx" | "xlsm" => .ok .xlsx
  | other => .error (.unsupported other)

/-- The format that a file name's extension names. -/
def ofFileName? (name : String) : Option FileFormat :=
  (splitLast? (· == '.') name.toList).bind fun p => (named (.ofList p.2)).toOption

end FileFormat

/-- A file name without its extension; a name that is nothing else is kept. -/
def fileStem (name : String) : String :=
  match splitLast? (· == '.') name.toList with
  | some (stem, _) => if stem.isEmpty then name else .ofList stem
  | none => name

/-- What opens the archives of spreadsheet files: it gives the worksheets in an archive, if the bytes
are one. -/
abbrev Opener := List UInt8 → Option (List Worksheet)

/-- Takes no bytes for an archive. -/
def Opener.never : Opener := fun _ => none

/-- **The tables of a file.** -/
def readTables (format : FileFormat) (name : String) (bytes : List UInt8)
    (opener : Opener := Opener.never) : Except IntakeError (List Table) :=
  match format with
  | .csv => (readCsv name bytes).map fun t => [t]
  | .xlsx =>
    match opener bytes with
    | some sheets => readWorkbook sheets
    | none => .error .notWorkbook

end Tabular
