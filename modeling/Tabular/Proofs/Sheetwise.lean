import Tabular.Proofs.Related
import Tabular.Sheet

/-!
# Sheets by their places

Two datasets, or one at two times, are compared sheet by sheet.

* `Dataset.Sheetwise`: **the same dataset but for its sheets**, which are related in their order.
* `Dataset.Sheetwise.active?` and `Dataset.Sheetwise.mapActive`: the active sheets are related, also
  when both are changed.
-/

namespace Tabular.Dataset

variable {R : Sheet → Sheet → Prop} {d d' d'' : Dataset}

/-- **The same dataset but for its sheets**, which are related in their order. -/
structure Sheetwise (R : Sheet → Sheet → Prop) (d d' : Dataset) : Prop where
  name : d'.name = d.name
  activeSheet : d'.activeSheet = d.activeSheet
  sheets : List.Forall₂ R d.sheets d'.sheets

namespace Sheetwise

theorem refl (hR : ∀ s, R s s) (d : Dataset) : d.Sheetwise R d :=
  ⟨rfl, rfl, List.forall₂_same.2 fun s _ => hR s⟩

theorem trans (hR : ∀ s t u, R s t → R t u → R s u) (h : d.Sheetwise R d')
    (h' : d'.Sheetwise R d'') : d.Sheetwise R d'' :=
  ⟨h'.name.trans h.name, h'.activeSheet.trans h.activeSheet, forall₂_trans hR h.sheets h'.sheets⟩

/-- The active sheets are related. -/
theorem active? (h : d.Sheetwise R d') (hR : ∀ s t, R s t → t.name = s.name) :
    Option.Rel R d.active? d'.active? := by
  refine find?_rel h.sheets ?_
  intro s t hst
  rw [hR s t hst, h.activeSheet]

/-- The active sheets are related when both are changed. -/
theorem mapActive {f g : Sheet → Sheet} (h : d.Sheetwise R d')
    (hR : ∀ s t, R s t → t.name = s.name) (hfg : ∀ s t, R s t → R (f s) (g t)) :
    (d.mapActive f).Sheetwise R (d'.mapActive g) := by
  refine ⟨h.name, h.activeSheet, mapFirst_rel h.sheets ?_ hfg⟩
  intro s t hst
  rw [hR s t hst, h.activeSheet]

end Sheetwise

end Tabular.Dataset
