/-!
# Writing delimited text

Fields are separated by commas and records end with a line feed. A field is quoted only when
it holds a comma, a quote or a line break, and a quote inside quotes is written twice. All
records are as wide as the first one, or nothing is written.

* `field` writes one field and `record` one record.
* `write` writes a table of fields, `Uneven` tells why one is refused.
-/

namespace Tabular.Delimited

/-- A field with this character is quoted. -/
def needsQuotes (c : Char) : Bool := c == ',' || c == '"' || c == '\n' || c == '\r'

/-- The characters of a field inside quotes. -/
def doubled : List Char → List Char
  | [] => []
  | c :: cs => if c = '"' then '"' :: '"' :: doubled cs else c :: doubled cs

/-- The written form of a field. -/
def field (cs : List Char) : List Char :=
  if cs.any needsQuotes then '"' :: (doubled cs ++ ['"']) else cs

/-- The written form of a record, its line feed included. -/
def record (fields : List String) : List Char :=
  List.intercalate [','] (fields.map fun f => field f.toList) ++ ['\n']

/-- A record that is not as wide as those before it. -/
structure Uneven where
  expected : Nat
  found : Nat
  deriving DecidableEq, Repr

/-- The wording of a refusal. -/
def Uneven.message (u : Uneven) : String :=
  s!"CSV error: found record with {u.found} fields, but the previous record has {u.expected} fields"

/-- **The written form of a table of fields**, whose first record sets the width. -/
def write (records : List (List String)) : Except Uneven String :=
  let width := (records.head?.map List.length).getD 0
  match records.find? (·.length != width) with
  | some r => .error ⟨width, r.length⟩
  | none => .ok (.ofList (records.flatMap record))

end Tabular.Delimited
