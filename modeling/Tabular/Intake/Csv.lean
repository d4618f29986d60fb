import Tabular.Delimited.Reader
import Tabular.Error
import Tabular.Header
import Tabular.Sheet

/-!
# Tables from delimited files

The first record of a file names the columns. Every later record gives a row, unless all its
fields are blank or their count is not that of the columns.

* `Cell.ofField` reads a field: a number if it is one, else the text without blanks around it.
* `readCsv` reads a file.
-/

namespace Tabular

/-- The cell of a field. -/
def Cell.ofField (field : String) : Cell :=
  let s := trimmed field
  if s.isEmpty then .empty
  else
    match float? s with
    | some x => if x.isFinite then .number x else .text s
    | none => .text s

/-- The text of a field, if its bytes are one. -/
def fieldText? (bytes : List UInt8) : Option String := String.fromUTF8? ⟨bytes.toArray⟩

/-- The texts of a record. -/
def recordTexts? (record : List (List UInt8)) : Option (List String) := record.mapM fieldText?

/-- The row of a record, if it gives one. -/
def recordRow? (columns : List String) (fields : List String) : Option Row :=
  if fields.all (fun f => (trimmed f).isEmpty) || fields.length != columns.length then none
  else some (Row.ofList (columns.zip (fields.map Cell.ofField)))

/-- **Reads a delimited file** into a table of the given name. -/
def readCsv (name : String) (bytes : List UInt8) : Except IntakeError Table :=
  match Delimited.byteRecords bytes with
  | [] => .ok ⟨name, [], []⟩
  | header :: records =>
    match recordTexts? header with
    | none => .error .header
    | some headers =>
      let columns := cleanHeaders headers
      match records.mapM recordTexts? with
      | none => .error .malformed
      | some records => .ok ⟨name, columns, records.filterMap (recordRow? columns)⟩

end Tabular
