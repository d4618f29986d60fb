import Tabular.Proofs.Sheetwise
import Tabular.Proofs.Workbench.Frame

/-!
# All sheets by their places

Console lines never add, remove or move a dataset or a sheet. So a workbench is compared with the
one after a line sheet by sheet.

* `Workbench.Sheetwise`: the same names and sheet pointers in the same order, with sheets that are
  related.
* `execute_sheetwise`: **what is to be shown of new content** so that after a line all sheets are
  related to what they were before.
-/

namespace Tabular.Workbench

variable {R : Sheet → Sheet → Prop} {w w' : Workbench}

/-- **The same datasets in the same order, with sheets that are related.** -/
def Sheetwise (R : Sheet → Sheet → Prop) (w w' : Workbench) : Prop :=
  List.Forall₂ (Dataset.Sheetwise R) w.datasets w'.datasets

theorem Sheetwise.refl (hR : ∀ s, R s s) (w : Workbench) : w.Sheetwise R w :=
  List.forall₂_same.2 fun d _ => .refl hR d

theorem Sheetwise.trans (hR : ∀ s t u, R s t → R t u → R s u) {w'' : Workbench}
    (h : w.Sheetwise R w') (h' : w'.Sheetwise R w'') : w.Sheetwise R w'' :=
  forall₂_trans (fun _ _ _ => .trans hR) h h'

theorem Focus.sheetwise (f : w.Focus) {content : Content} (hR : ∀ s, R s s)
    (h : R f.sheet (f.sheet.withContent content)) : w.Sheetwise R (f.withContent content) := by
  have same (l : List Dataset) : List.Forall₂ (Dataset.Sheetwise R) l l :=
    List.forall₂_same.2 fun d _ => .refl hR d
  unfold Sheetwise
  rw [f.datasets_eq]
  refine List.rel_append (same _) (.cons ⟨rfl, rfl, ?_⟩ (same _))
  rw [f.sheets_eq]
  exact List.rel_append (List.forall₂_same.2 fun s _ => hR s)
    (.cons h (List.forall₂_same.2 fun s _ => hR s))

/-- After a line every sheet is related to what it was, if new content is. -/
theorem execute_sheetwise {line : String} (hR : ∀ s, R s s)
    (h : ∀ (f : w.Focus) (c : Command) (s : String) (columns : List String) (rows : List Row),
      Command.parse? line = some c →
      c.run w.context = .ok (.replace s (.profiled w.options.inference columns rows)) →
      R f.sheet (f.sheet.withContent (.profiled w.options.inference columns rows))) :
    w.Sheetwise R (w.execute line).1 := by
  have hends := execute_ends w line
  generalize w.execute line = x at hends ⊢
  cases hends with
  | ignored | refused | answered | switched => exact .refl hR w
  | @committed c s columns rows f hc _ hr => exact f.sheetwise hR (h f c s columns rows hc hr)

end Tabular.Workbench
