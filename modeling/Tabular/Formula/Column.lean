import Tabular.Formula.Parser
import Tabular.Formula.Value

/-!
# New columns from formulas

* `Formula.compile` reads a formula over given columns.
* `Formula.evaluate` is its cell in a row.
* `generate` adds a column of such cells; any error leaves nothing changed.
-/

namespace Tabular

/-- **Reads a formula over the columns of a table.** -/
def Formula.compile (columns : List String) (source : String) : Except FormulaError Formula := do
  Formula.parse (← Lexeme.ofSource columns source)

/-- The cell that a formula gives for a row. -/
def Formula.evaluate (f : Formula) (r : Row) : Except FormulaError Cell :=
  (f.eval r).map Scalar.toCell

/-- **The rows with a new column**, computed from a formula. -/
def generate (rows : List Row) (columns : List String) (name source : String) :
    Except FormulaError (List Row) := do
  let f ← Formula.compile columns source
  rows.mapM fun r => do return r.insert name (← f.evaluate r)

end Tabular
