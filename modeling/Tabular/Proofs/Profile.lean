import Mathlib
import Tabular.Proofs.Distinct
import Tabular.Proofs.Order

/-!
# Summaries and the order of the rows

A summary is taken over the present cells of a column. Its sample shows them in row order, and its
type may go by the first of them; all else is the same in whatever order the rows stand.

* `inferType_of_forall`: a column whose cells are of one type has this type.
* `columnNumbers` are the numbers of a column, and `Extremes` the least and the greatest of them.
* `summarize_extremes`: these are the minimum and the maximum of the summary.
* `inferType_perm`: the majority of all cells does not depend on their order.
* `summarize_perm`: **the statistics of a column do not depend on the order of the rows.**
-/

namespace Tabular

variable {policy : Inference} {rows rows' : List Row} {name : String} {cells cells' : List Cell}

/-! ## The cells of a column -/

theorem mem_presentCells {c : Cell} :
    c ∈ presentCells rows name ↔ c.isMissing = false ∧ ∃ r ∈ rows, r.cell name = c := by
  simp [presentCells, and_comm]

theorem presentCells_perm (h : rows.Perm rows') (name : String) :
    (presentCells rows name).Perm (presentCells rows' name) := (h.map _).filter _

/-- The numbers of a column, in row order. -/
def columnNumbers (rows : List Row) (name : String) : List Float :=
  (presentCells rows name).filterMap Cell.number?

theorem mem_columnNumbers {x : Float} :
    x ∈ columnNumbers rows name ↔ ∃ r ∈ rows, r.cell name = .number x := by
  unfold columnNumbers
  rw [List.mem_filterMap]
  constructor
  · rintro ⟨c, hc, hx⟩
    obtain ⟨-, r, hr, rfl⟩ := mem_presentCells.1 hc
    refine ⟨r, hr, ?_⟩
    cases hcell : r.cell name with
    | number y =>
      rw [hcell] at hx
      cases hx
      rfl
    | empty | text s =>
      rw [hcell] at hx
      cases hx
  · rintro ⟨r, hr, hx⟩
    exact ⟨.number x, mem_presentCells.2 ⟨rfl, r, hr, hx⟩, rfl⟩

/-! ## Columns of one type -/

/-- A column whose present cells are all of one type has this type. -/
theorem inferType_of_forall {type : ColumnType} (hne : cells ≠ [])
    (h : ∀ c ∈ cells, c.type = type) : inferType policy cells = type := by
  cases policy with
  | first =>
    obtain ⟨c, cells, rfl⟩ := List.exists_cons_of_ne_nil hne
    exact h c List.mem_cons_self
  | majority =>
    have hleading : cells.take typedCells ≠ [] := by
      rw [ne_eq, List.take_eq_nil_iff, not_or]
      exact ⟨by decide, hne⟩
    have hpos : 0 < (cells.take typedCells).length := List.length_pos_iff.2 hleading
    have hmost (t : ColumnType) : mostAre t (cells.take typedCells) = decide (type = t) := by
      have hcount : (cells.take typedCells).countP (·.type == t) =
          if type = t then (cells.take typedCells).length else 0 := by
        split
        · rename_i ht
          rw [List.countP_eq_length]
          exact fun c hc => beq_iff_eq.2 ((h c (List.mem_of_mem_take hc)).trans ht)
        · rename_i ht
          rw [List.countP_eq_zero]
          exact fun c hc hct => ht ((h c (List.mem_of_mem_take hc)).symm.trans (beq_iff_eq.1 hct))
      rw [mostAre, hcount, decide_eq_decide]
      split
      · exact iff_of_true (by omega) (by assumption)
      · exact iff_of_false (by omega) (by assumption)
    simp only [inferType, List.isEmpty_eq_false_iff.2 hleading, hmost]
    cases type <;> rfl

/-! ## Extremes -/

/-- **The extremes of a column**: two of its numbers, and in the total order all of its numbers are
between them. -/
structure Extremes (rows : List Row) (name : String) (lo hi : Float) : Prop where
  lo_mem : ∃ r ∈ rows, r.cell name = .number lo
  hi_mem : ∃ r ∈ rows, r.cell name = .number hi
  bounds : ∀ r ∈ rows, ∀ x, r.cell name = .number x → totalLe lo x = true ∧ totalLe x hi = true

/-- The first and the last one of ordered numbers bound them all. -/
theorem bounds_ordered {xs : List Float} {lo hi x : Float} (hlo : (ordered xs).head? = some lo)
    (hhi : (ordered xs).getLast? = some hi) (hx : x ∈ xs) :
    totalLe lo x = true ∧ totalLe x hi = true := by
  have hne : ordered xs ≠ [] := List.ne_nil_of_mem (mem_ordered.2 hx)
  rw [List.head?_eq_some_head hne, Option.some.injEq] at hlo
  rw [List.getLast?_eq_some_getLast hne, Option.some.injEq] at hhi
  subst hlo hhi
  exact ⟨(pairwise_ordered xs).rel_head_of_rel_head_head (mem_ordered.2 hx) (totalLe_refl _),
    (pairwise_ordered xs).rel_getLast_of_rel_getLast_getLast (mem_ordered.2 hx) (totalLe_refl _)⟩

/-- **The minimum and the maximum of a number column are its extremes.** -/
theorem summarize_extremes (htype : (summarize policy rows name).type = .number)
    (hnumber : ∃ r ∈ rows, ∃ x, r.cell name = .number x) :
    ∃ lo hi, (summarize policy rows name).min = some lo ∧
      (summarize policy rows name).max = some hi ∧ Extremes rows name lo hi := by
  have htype' : inferType policy (presentCells rows name) = .number := htype
  have hmin : (summarize policy rows name).min = (ordered (columnNumbers rows name)).head? := by
    simp only [summarize, htype', if_true, columnNumbers]
  have hmax : (summarize policy rows name).max = (ordered (columnNumbers rows name)).getLast? := by
    simp only [summarize, htype', if_true, columnNumbers]
  have hne : ordered (columnNumbers rows name) ≠ [] := by
    obtain ⟨r, hr, x, hx⟩ := hnumber
    exact List.ne_nil_of_mem (mem_ordered.2 (mem_columnNumbers.2 ⟨r, hr, hx⟩))
  have hlo := List.head?_eq_some_head hne
  have hhi := List.getLast?_eq_some_getLast hne
  refine ⟨_, _, hmin.trans hlo, hmax.trans hhi, ?_, ?_, ?_⟩
  · exact mem_columnNumbers.1 (mem_ordered.1 (List.head_mem hne))
  · exact mem_columnNumbers.1 (mem_ordered.1 (List.getLast_mem hne))
  · intro r hr x hx
    exact bounds_ordered hlo hhi (mem_columnNumbers.2 ⟨r, hr, hx⟩)

/-! ## Other orders of the rows -/

/-- **The majority of all cells does not depend on their order**, when they are not more than the
type is taken over. -/
theorem inferType_perm (h : cells.Perm cells') (hlen : cells.length ≤ typedCells) :
    inferType .majority cells = inferType .majority cells' := by
  have hlen' : cells'.length ≤ typedCells := h.length_eq ▸ hlen
  have hmost (t : ColumnType) : mostAre t cells = mostAre t cells' := by
    unfold mostAre
    rw [h.length_eq, h.countP_eq]
  unfold inferType
  rw [List.take_of_length_le hlen, List.take_of_length_le hlen']
  simp only [hmost, h.isEmpty_eq]

/-- **The statistics of a column do not depend on the order of the rows.** Where the type is the
same, so is all of the summary but the sample, and the type is the same when it is the majority of
at most 100 cells. The minimum and the maximum of a number column are its extremes. Numbers are
sorted by their words, and these to one list whatever NaN there are among them. -/
theorem summarize_perm (h : rows.Perm rows') (policy : Inference) (name : String) :
    let s := summarize policy rows name
    let s' := summarize policy rows' name
    (s.type = s'.type → { s with sample := s'.sample } = s') ∧
      (policy = .majority → s.obs ≤ 100 → s.type = s'.type) ∧
      (s.type = .number → (∃ r ∈ rows, ∃ x, r.cell name = .number x) →
        ∃ lo hi, s.min = some lo ∧ s.max = some hi ∧ Extremes rows name lo hi) ∧
      (∀ xs, (ordered xs).map Float.toBits = inTotalOrder (xs.map Float.toBits)) ∧
      ∀ ws ws', ws.Perm ws' → inTotalOrder ws = inTotalOrder ws' := by
  have hcells := presentCells_perm h name
  refine ⟨?_, ?_, summarize_extremes, map_toBits_ordered, fun _ _ => inTotalOrder_perm⟩
  · intro htype
    have htype : inferType policy (presentCells rows name) =
        inferType policy (presentCells rows' name) := htype
    -- the mean and the median are read off the sorted numbers
    have hnumbers : ordered ((presentCells rows name).filterMap Cell.number?) =
        ordered ((presentCells rows' name).filterMap Cell.number?) :=
      ordered_perm (hcells.filterMap _)
    have hdistinct := length_eraseDups_perm (hcells.map Cell.display)
    simp only [summarize, htype, hnumbers, hdistinct, h.length_eq, hcells.length_eq]
  · rintro rfl hobs
    exact inferType_perm hcells hobs

/-- A column with both zeros, a NaN, a text and a missing cell. -/
def mixedRows : List Row :=
  [.ofList [("a", .text "x")], .ofList [("a", .number 0)], .empty, .ofList [("a", .number (-0.0))],
    .ofList [("a", .number (0 / 0))], .ofList [("a", .number 5)]]

/-- Mixed rows bottom up: the type is number, and the numbers go from one zero to the NaN. -/
theorem summarize_reverse_mixedRows :
    mixedRows.Perm mixedRows.reverse ∧
      { summarize .majority mixedRows "a" with
        sample := (summarize .majority mixedRows.reverse "a").sample } =
        summarize .majority mixedRows.reverse "a" ∧
      ∃ lo hi, (summarize .majority mixedRows "a").min = some lo ∧
        (summarize .majority mixedRows "a").max = some hi ∧ Extremes mixedRows "a" lo hi := by
  have hperm : mixedRows.Perm mixedRows.reverse := mixedRows.reverse_perm.symm
  have htype : (summarize .majority mixedRows "a").type = .number := by decide
  have hobs : (summarize .majority mixedRows "a").obs ≤ 100 := by decide
  obtain ⟨hsame, hmajority, hextremes, -, -⟩ := summarize_perm hperm .majority "a"
  refine ⟨hperm, hsame (hmajority rfl hobs), hextremes htype ?_⟩
  exact ⟨.ofList [("a", .number 0)], by simp [mixedRows], 0, by decide⟩

end Tabular
