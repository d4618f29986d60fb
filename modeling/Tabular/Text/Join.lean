/-!
# Joining texts

* `concat` puts texts one after another, `joined` puts a separator between them.
* `lines` are texts with line feeds between them, `commaSeparated` a list of names.
-/

namespace Tabular

/-- Texts one after another. -/
def concat (ss : List String) : String := .ofList (ss.flatMap String.toList)

/-- Texts with a separator between them. -/
def joined (separator : String) (ss : List String) : String :=
  .ofList (List.intercalate separator.toList (ss.map String.toList))

/-- Texts with line feeds between them. -/
def lines (ss : List String) : String := joined "\n" ss

/-- Names with commas between them. -/
def commaSeparated (names : List String) : String := joined ", " names

@[simp] theorem toList_concat (ss : List String) : (concat ss).toList = ss.flatMap String.toList :=
  String.toList_ofList

end Tabular
