import Tabular.Proofs.Merge.Join

/-!
# Merging the same table again

A merge keeps the key cell of every master row, so the row has the same match again, whose cells are
all there. The columns that were new are there too, and a second merge has nothing left to do.

* `joinRow_joinRow`: a using row that is laid over a row twice.
* `mergeRow_mergeRow`: a merged row has the match that it had, and takes nothing new from it.
* `mergeColumns_mergeColumns`: all columns are there.
* `merge_merge`: **merging the same table again changes nothing**, and gives the same account.
-/

namespace Tabular

variable {column name : String} {master u : Row} {masters usings : List Row}
  {masterColumns usingColumns : List String} {index : Index}

/-! ## Rows -/

theorem cell_joinRow : (joinRow column master u).cell name =
    if name = column then master.cell column
    else ((u.get? name).or (master.get? name)).getD .empty := by
  rw [Row.cell, get?_joinRow]
  split <;> rfl

theorem mem_names_joinRow : name ∈ (joinRow column master u).names ↔
    name = column ∨ name ∈ master.names ∨ name ∈ u.names := by
  rw [joinRow, Row.mem_names_insert, Row.mem_names_overlay]

/-- A row that a using row was laid over has all of its names. -/
theorem names_joinRow_joinRow :
    (joinRow column (joinRow column master u) u).names = (joinRow column master u).names := by
  have hover : ((joinRow column master u).overlay u).names = (joinRow column master u).names :=
    Row.names_overlay fun n hn => mem_names_joinRow.2 (.inr (.inr hn))
  have hkey : column ∈ ((joinRow column master u).overlay u).names := by
    rw [hover]
    exact mem_names_joinRow.2 (.inl rfl)
  rw [joinRow, Row.names_insert hkey, hover]

/-- **Laying a using row over the same row twice is as good as once.** -/
theorem joinRow_joinRow :
    joinRow column (joinRow column master u) u = joinRow column master u := by
  refine Row.eq_of_cell names_joinRow_joinRow fun n => ?_
  rw [cell_joinRow, cell_joinRow, cell_joinRow, if_pos rfl, get?_joinRow]
  by_cases hn : n = column
  · rw [if_pos hn, if_pos hn]
  · rw [if_neg hn, if_neg hn, if_neg hn, ← Option.or_assoc, Option.or_self]

/-- The key cell stays as it is. -/
theorem cell_mergeRow : (mergeRow index column master).cell column = master.cell column := by
  unfold mergeRow
  split
  · rw [cell_joinRow, if_pos rfl]
  · rfl

theorem key?_mergeRow : (mergeRow index column master).key? column = master.key? column := by
  rw [Row.key?, Row.key?, cell_mergeRow]

theorem match?_mergeRow :
    index.match? column (mergeRow index column master) = index.match? column master := by
  rw [Index.match?, Index.match?, key?_mergeRow]

/-- **A merged row takes nothing new from a second merge.** -/
theorem mergeRow_mergeRow :
    mergeRow index column (mergeRow index column master) = mergeRow index column master := by
  rw [mergeRow, match?_mergeRow]
  unfold mergeRow
  split
  · exact joinRow_joinRow
  · rfl

/-! ## Columns -/

/-- No using column is new after a merge. -/
theorem mergeColumns_mergeColumns :
    mergeColumns (mergeColumns masterColumns usingColumns) usingColumns =
      mergeColumns masterColumns usingColumns := by
  have hnone : usingColumns.filter (· ∉ mergeColumns masterColumns usingColumns) = [] := by
    rw [List.filter_eq_nil_iff]
    intro c hc
    simpa using mem_mergeColumns.2 (.inr hc)
  rw [mergeColumns_eq (mergeColumns masterColumns usingColumns), hnone, List.eraseDups_nil,
    List.append_nil]

/-! ## Whole tables -/

/-- **Merging the same table again changes nothing**: it succeeds, and the rows, the columns and the
account are those of the first merge. -/
theorem merge_merge {m : Merged}
    (h : merge masters masterColumns usings usingColumns column = .ok m) :
    merge m.rows m.columns usings usingColumns column = .ok m := by
  obtain ⟨hmaster, husing, hrows, hcolumns, hreport⟩ := merge_eq_ok.1 h
  refine merge_eq_ok.2 ⟨?_, husing, ?_, ?_, ?_⟩
  · rw [hcolumns]
    exact mem_mergeColumns.2 (.inl hmaster)
  · rw [hrows, List.map_map]
    exact List.map_congr_left fun r _ => mergeRow_mergeRow.symm
  · rw [hcolumns, mergeColumns_mergeColumns]
  · -- the account reads the merged rows through their keys alone
    obtain ⟨hmatched, hmasterOnly, husingOnly, husingDuplicates⟩ := hreport
    refine ⟨?_, ?_, ?_, husingDuplicates⟩
    · simpa only [hrows, List.countP_map, Function.comp_def, match?_mergeRow] using hmatched
    · simpa only [hrows, List.length_map] using hmasterOnly
    · simpa only [hrows, List.filterMap_map, Function.comp_def, key?_mergeRow] using husingOnly

/-- Rows with both zeros as their keys, and one without a key. -/
def zeroRows : List Row :=
  [.ofList [("k", .number (-0.0)), ("b", .text "m")], .ofList [("k", .number 0)],
    .ofList [("b", .text "n")]]

/-- Rows of which two have one key, and one has an empty text for its key. -/
def repeatedRows : List Row :=
  [.ofList [("k", .number 0), ("b", .text "u")], .ofList [("k", .text "")],
    .ofList [("c", .text "v"), ("k", .number 0), ("b", .text "w")], .ofList [("k", .text "x")]]

/-- What the second one of the repeated rows makes of them. -/
def zeroMerged : Merged where
  rows := [.ofList [("k", .number (-0.0)), ("b", .text "w"), ("c", .text "v")],
    .ofList [("k", .number 0), ("c", .text "v"), ("b", .text "w")], .ofList [("b", .text "n")]]
  columns := ["k", "b", "c"]
  report := ⟨2, 1, 1, 1⟩

/-- Zeros are merged with the repeated rows twice: the keys keep their signs. -/
theorem merge_merge_zeroRows :
    merge zeroRows ["k", "b"] repeatedRows ["c", "k", "b"] "k" = .ok zeroMerged ∧
      merge zeroMerged.rows zeroMerged.columns repeatedRows ["c", "k", "b"] "k" =
        .ok zeroMerged := by
  have h : merge zeroRows ["k", "b"] repeatedRows ["c", "k", "b"] "k" = .ok zeroMerged := by rfl
  exact ⟨h, merge_merge h⟩

end Tabular
