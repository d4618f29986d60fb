import Mathlib
import Tabular.Proofs.Aggregate.Category
import Tabular.Proofs.Profile

/-!
# Groups and distinct cells

A summary counts the distinct texts of the present cells, and rows are grouped by the text of a cell
or, where it is missing, under a name of their own. A cell may show just that name; then the missing
cells are in its group.

* `displays` are the texts that the summary counts.
* `UnknownApart` says when the missing cells have a group of their own.
* `toFinset_categories`: the categories are the displays, and the unknown one if a cell is missing.
* `total_byCategory`: **there are as many groups as distinct cells, and one more for the missing
  cells if it is their own**; so a column that is worth grouping by has no more than the ceiling.
-/

namespace Tabular

variable {policy : Inference} {rows : List Row} {column category : String}

/-- The texts of the present cells of a column. -/
def displays (rows : List Row) (column : String) : Finset String :=
  ((presentCells rows column).map Cell.display).toFinset

/-- **The missing cells have a group of their own**: there are some, and no other cell shows the
name of their group. -/
def UnknownApart (rows : List Row) (column : String) : Prop :=
  (∃ r ∈ rows, (r.cell column).isMissing = true) ∧
    ∀ r ∈ rows, (r.cell column).isMissing = false → (r.cell column).display ≠ unknownCategory

instance : Decidable (UnknownApart rows column) := inferInstanceAs (Decidable (_ ∧ _))

theorem mem_displays : category ∈ displays rows column ↔
    ∃ r ∈ rows, (r.cell column).isMissing = false ∧ (r.cell column).display = category := by
  rw [displays, List.mem_toFinset, List.mem_map]
  constructor
  · rintro ⟨c, hc, rfl⟩
    obtain ⟨hpresent, r, hr, rfl⟩ := mem_presentCells.1 hc
    exact ⟨r, hr, hpresent, rfl⟩
  · rintro ⟨r, hr, hpresent, rfl⟩
    exact ⟨_, mem_presentCells.2 ⟨hpresent, r, hr, rfl⟩, rfl⟩

theorem unknownApart_iff : UnknownApart rows column ↔
    (∃ r ∈ rows, (r.cell column).isMissing = true) ∧ unknownCategory ∉ displays rows column := by
  simp only [UnknownApart, mem_displays, not_exists, not_and]

/-- A cell that is not missing has its text for a category. -/
theorem mem_categories : category ∈ categories rows column ↔
    category ∈ displays rows column ∨
      category = unknownCategory ∧ ∃ r ∈ rows, (r.cell column).isMissing = true := by
  rw [categories, List.mem_map, mem_displays]
  constructor
  · rintro ⟨r, hr, rfl⟩
    cases hmissing : (r.cell column).isMissing with
    | true => exact .inr ⟨if_pos hmissing, r, hr, hmissing⟩
    | false => exact .inl ⟨r, hr, hmissing, (if_neg (by simp [hmissing])).symm⟩
  · rintro (⟨r, hr, hpresent, rfl⟩ | ⟨rfl, r, hr, hmissing⟩)
    · exact ⟨r, hr, if_neg (by simp [hpresent])⟩
    · exact ⟨r, hr, if_pos hmissing⟩

/-- **The categories are the displays, and the unknown one if a cell is missing.** -/
theorem toFinset_categories (rows : List Row) (column : String) :
    (categories rows column).toFinset =
      if ∃ r ∈ rows, (r.cell column).isMissing = true
      then insert unknownCategory (displays rows column) else displays rows column := by
  ext category
  rw [List.mem_toFinset, mem_categories]
  split
  · rename_i hmissing
    rw [Finset.mem_insert, or_comm]
    exact or_congr_left (and_iff_left hmissing)
  · rename_i hmissing
    exact or_iff_left fun h => hmissing h.2

/-- The unknown category is one more if no display is equal to it. -/
theorem card_categories (rows : List Row) (column : String) :
    (categories rows column).toFinset.card =
      (displays rows column).card + if UnknownApart rows column then 1 else 0 := by
  rw [toFinset_categories]
  by_cases hmissing : ∃ r ∈ rows, (r.cell column).isMissing = true
  · rw [if_pos hmissing]
    by_cases hshown : unknownCategory ∈ displays rows column
    · -- the missing cells are in the group of a cell that shows the name
      rw [Finset.insert_eq_of_mem hshown, if_neg fun h => (unknownApart_iff.1 h).2 hshown,
        Nat.add_zero]
    · rw [Finset.card_insert_of_notMem hshown, if_pos (unknownApart_iff.2 ⟨hmissing, hshown⟩)]
  · rw [if_neg hmissing, if_neg fun h => hmissing h.1, Nat.add_zero]

/-- There are as many groups as categories. -/
theorem total_eq_card (rows : List Row) (column : String) (measures : List String) :
    (byCategory rows column measures).total = (categories rows column).toFinset.card := by
  rw [← filterMap_category]
  exact Bucket.length_collect _ _ _

/-- The summary of a column that does not hold numbers counts its displays. -/
theorem distinct_summarize (h : (summarize policy rows column).type ≠ .number) :
    (summarize policy rows column).distinct = some (displays rows column).card := by
  have htype : inferType policy (presentCells rows column) ≠ .number := h
  rw [displays, ← length_eraseDups]
  simp only [summarize, htype, if_false]

/-- **There are as many groups as the summary counts distinct cells**, and one more exactly if the
missing cells have a group of their own; both count the texts that are shown. A column that is worth
grouping by under a ceiling has no more groups than that. -/
theorem total_byCategory (policy : Inference) (rows : List Row) (column : String)
    (measures : List String) :
    let summary := summarize policy rows column
    let total := (byCategory rows column measures).total
    (summary.type = .string ∨ summary.type = .date →
      ∃ distinct, summary.distinct = some distinct ∧ distinct = (displays rows column).card ∧
        total = distinct + if UnknownApart rows column then 1 else 0) ∧
      ∀ ceiling, summary.isCategorical ceiling = true → total ≤ ceiling := by
  dsimp only
  rw [total_eq_card, card_categories]
  constructor
  · intro htype
    refine ⟨_, distinct_summarize ?_, rfl, rfl⟩
    rcases htype with htype | htype <;> rw [htype] <;> decide
  · intro ceiling h
    obtain ⟨htype, hceiling⟩ : (summarize policy rows column).type = .string ∧
        (summarize policy rows column).distinct.getD 0 < ceiling := by
      simpa [Summary.isCategorical] using h
    rw [distinct_summarize (by rw [htype]; decide), Option.getD_some] at hceiling
    split <;> omega

/-- A number and a text that show the same, another text and a missing cell. -/
def labelledRows : List Row :=
  [.ofList [("a", .text "1")], .ofList [("a", .number 1)], .empty, .ofList [("a", .text "x")]]

/-- Labelled rows have two distinct cells and three groups, the ceiling. -/
theorem total_byCategory_labelledRows :
    (summarize .majority labelledRows "a").distinct = some 2 ∧
      (byCategory labelledRows "a" []).total = 2 + 1 ∧
      (summarize .majority labelledRows "a").isCategorical 3 = true ∧
      (byCategory labelledRows "a" []).total ≤ 3 := by
  have htype : (summarize .majority labelledRows "a").type = .string := by decide +kernel
  have hdistinct : (summarize .majority labelledRows "a").distinct = some 2 := by decide +kernel
  have hcategorical : (summarize .majority labelledRows "a").isCategorical 3 = true := by
    decide +kernel
  have happart : UnknownApart labelledRows "a" := by decide +kernel
  obtain ⟨hcount, hceiling⟩ := total_byCategory .majority labelledRows "a" []
  obtain ⟨distinct, hd, -, htotal⟩ := hcount (.inl htype)
  obtain rfl : 2 = distinct := Option.some.inj (hdistinct.symm.trans hd)
  rw [if_pos happart] at htotal
  exact ⟨hdistinct, htotal, hcategorical, hceiling 3 hcategorical⟩

end Tabular
