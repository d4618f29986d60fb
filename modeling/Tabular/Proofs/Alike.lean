import Tabular.Proofs.Agree

/-!
# Rows that are alike

A column without a cell in a row reads as an empty one, so a row that stores an empty cell is like
one that does not store it. What is computed from rows is the same for rows that are alike.

* `Row.Alike`: the same cells in all columns, stored or not, and `Row.Same`: the same cells are
  stored. `ReadsCells` says of a function that it is the same for rows that are alike.
* `summaries_congr` and `groundTruth_congr`: **the profile and the exact sums are the same**, since
  such rows agree on all columns.
-/

namespace Tabular

/-- **Rows with the same cells**, where a cell that is not stored is an empty one. -/
def Row.Alike (r s : Row) : Prop := ∀ name, r.cell name = s.cell name

/-- Rows that store the same cells. -/
def Row.Same (r s : Row) : Prop := ∀ name, r.get? name = s.get? name

theorem Row.Same.alike {r s : Row} (h : r.Same s) : r.Alike s := by
  intro name
  unfold cell
  rw [h name]

theorem Row.Alike.insert {r s : Row} (h : r.Alike s) (name : String) (c : Cell) :
    (r.insert name c).Alike (s.insert name c) := by
  intro n
  rw [cell_insert, cell_insert, h n]

theorem Row.Alike.keep {r s : Row} (h : r.Alike s) (p : String → Bool) :
    (r.keep p).Alike (s.keep p) := by
  intro n
  have hn := h n
  unfold cell at hn ⊢
  rw [get?_keep, get?_keep]
  split
  · exact hn
  · rfl

/-- The function reads no more of a row than its cells. -/
def ReadsCells {β : Type} (f : Row → β) : Prop := ∀ r s, r.Alike s → f r = f s

variable {rows rows' : List Row}

/-- Rows that are alike agree on all columns. -/
theorem forall₂_agreeOn (h : List.Forall₂ Row.Alike rows rows') :
    List.Forall₂ (Row.AgreeOn fun _ => True) rows rows' :=
  h.imp fun _ _ hrs name _ => hrs name

/-- **The profile is the same.** -/
theorem summaries_congr (h : List.Forall₂ Row.Alike rows rows') (policy : Inference)
    (columns : List String) : summaries policy rows columns = summaries policy rows' columns :=
  List.map_congr_left fun _ _ => summarize_congr (forall₂_agreeOn h) policy trivial

/-- **The exact sums are the same.** -/
theorem groundTruth_congr (h : List.Forall₂ Row.Alike rows rows') (summaries : List Summary)
    (scope : Scope) (ceiling : Nat) :
    groundTruth rows summaries scope ceiling = groundTruth rows' summaries scope ceiling := by
  rw [groundTruth_eq_report, groundTruth_eq_report]
  exact report_congr (forall₂_agreeOn h) (fun _ _ => trivial) (fun _ _ => trivial)
    fun _ _ => trivial

end Tabular
