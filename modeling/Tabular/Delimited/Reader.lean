/-!
# Reading delimited text

The input is cut into records of fields before it is known to be text, so the reader works on
units of any type of which it knows the four that have a meaning.

* A field that starts with a quote runs to the next lone quote; two quotes inside are one.
  What follows the closing quote is taken as it is.
* A carriage return or a line feed outside quotes ends a record; lines without a unit are
  passed over.
* The end of the input ends a field, a quoted one too.
* `records` is the whole reader, `byteRecords` the one for bytes.
-/

namespace Tabular.Delimited

/-- What a unit means to the reader. -/
inductive Mark where
  | comma | quote | lineEnd | plain
  deriving DecidableEq, Repr

/-- Where the reader stands. -/
inductive Phase where
  | recordStart | fieldStart | unquoted | quoted | closed
  deriving DecidableEq, Repr

variable {α : Type} (mark : α → Mark)

/-- Reads on: `field` and `fields` hold the units of the field and the fields of the record
that are under way, both in reverse. -/
def run (phase : Phase) (field : List α) (fields : List (List α)) :
    List α → List (List (List α))
  | [] =>
    match phase with
    | .recordStart => []
    | _ => [(field.reverse :: fields).reverse]
  | a :: rest =>
    match phase, mark a with
    | .recordStart, .lineEnd => run .recordStart [] [] rest
    | .recordStart, .quote | .fieldStart, .quote => run .quoted [] fields rest
    | .quoted, .quote => run .closed field fields rest
    | .quoted, _ => run .quoted (a :: field) fields rest
    | .closed, .quote => run .quoted (a :: field) fields rest
    | _, .comma => run .fieldStart [] (field.reverse :: fields) rest
    | _, .lineEnd => (field.reverse :: fields).reverse :: run .recordStart [] [] rest
    | _, _ => run .unquoted (a :: field) fields rest

/-- **The records of an input.** -/
def records (units : List α) : List (List (List α)) := run mark .recordStart [] [] units

/-- The meaning of a byte. -/
def byteMark (b : UInt8) : Mark :=
  if b == 0x2c then .comma
  else if b == 0x22 then .quote
  else if b == 0x0a || b == 0x0d then .lineEnd
  else .plain

/-- The bytes after a byte order mark, which stands at most at the very start. -/
def withoutMark : List UInt8 → List UInt8
  | 0xef :: 0xbb :: 0xbf :: rest => rest
  | bytes => bytes

/-- The records of a file. -/
def byteRecords (bytes : List UInt8) : List (List (List UInt8)) :=
  records byteMark (withoutMark bytes)

end Tabular.Delimited
