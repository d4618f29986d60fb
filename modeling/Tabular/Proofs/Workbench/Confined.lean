import Mathlib.Tactic.Tauto
import Tabular.Proofs.Merge.Join
import Tabular.Proofs.Related
import Tabular.Proofs.Row
import Tabular.Proofs.Workbench.Sheets

/-!
# Rows within their columns

Commands build new rows and a new list of columns apart from each other. No row ever stores a cell
under a name that is not a column.

* `Confined`: the rows have no names but the columns.
* `generate_eq_ok`, `Joins.mem_names` and `LeftJoin.mem_columns`: the rows and columns that an edit
  gives.
* `generate_confined`, `drop_confined` and `merge_confined`: every edit keeps rows within their
  columns, and `Edits.confined` collects them. A merge brings in rows of another sheet, so those
  have to be within their columns too.
* `execute_confined`: **every console line keeps the rows of all sheets within their columns.**
-/

namespace Tabular

variable {columns : List String} {rows : List Row}

/-- **The rows store no cell outside the columns.** -/
def Confined (columns : List String) (rows : List Row) : Prop :=
  ∀ r ∈ rows, ∀ n ∈ r.names, n ∈ columns

/-- The rows of the sheet store no cell outside its columns. -/
def Sheet.Confined (s : Sheet) : Prop := Tabular.Confined s.columns s.rows

/-! ## Rows and columns that an edit gives -/

/-- Every row gets the value of one formula in it under the new name. -/
theorem generate_eq_ok {name source : String} {rows' : List Row} :
    generate rows columns name source = .ok rows' ↔
      ∃ f, Formula.compile columns source = .ok f ∧
        List.Forall₂ (fun r r' => ∃ c, f.evaluate r = .ok c ∧ r' = r.insert name c) rows rows' := by
  unfold generate
  simp only [bind_eq_ok, mapM_eq_ok, pure_eq_ok, eq_comm (b := Row.insert _ _ _)]

/-- The names in a joined row are those of its two rows, and the key column. -/
theorem Joins.mem_names {column : String} {usings : List Row} {master out : Row} {n : String}
    (h : Joins column usings master out) (hn : n ∈ out.names) :
    n = column ∨ n ∈ master.names ∨ ∃ u ∈ usings, n ∈ u.names := by
  cases h with
  | @matched u _ hm cells =>
    obtain ⟨c, hc⟩ := Row.mem_names.1 hn
    rw [cells n] at hc
    split at hc
    · exact .inl (by assumption)
    · rcases Option.or_eq_some_iff.1 hc with hc | ⟨-, hc⟩
      · exact .inr (.inr ⟨u, hm.mem, Row.mem_names.2 ⟨c, hc⟩⟩)
      · exact .inr (.inl (Row.mem_names.2 ⟨c, hc⟩))
  | unmatched _ => exact .inr (.inl hn)

theorem LeftJoin.mem_columns {column n : String} {masters usings : List Row}
    {masterColumns usingColumns : List String} {m : Merged}
    (h : LeftJoin column masters masterColumns usings usingColumns m) :
    n ∈ m.columns ↔ n ∈ masterColumns ∨ n ∈ usingColumns := by
  rw [h.columns, ← mergeColumns_eq, mem_mergeColumns]

/-! ## Every edit keeps rows within their columns -/

theorem generate_confined {name source : String} {rows' : List Row} (h : Confined columns rows)
    (hg : generate rows columns name source = .ok rows') :
    Confined (columns ++ [name]) rows' := by
  obtain ⟨f, -, hrows⟩ := generate_eq_ok.1 hg
  intro r' hr' n hmem
  obtain ⟨r, hr, c, -, rfl⟩ := exists_of_mem_right hrows hr'
  rw [Row.mem_names_insert] at hmem
  rw [List.mem_append, List.mem_singleton]
  exact hmem.symm.imp_left (h r hr n)

theorem drop_confined (h : Confined columns rows) (kept : String → Bool) :
    Confined (columns.filter kept) (rows.map (·.keep kept)) := by
  intro r' hr' n hmem
  obtain ⟨r, hr, rfl⟩ := List.mem_map.1 hr'
  rw [Row.mem_names_keep] at hmem
  exact List.mem_filter.2 ⟨h r hr n hmem.2, hmem.1⟩

theorem merge_confined {column : String} {masters usings : List Row}
    {masterColumns usingColumns : List String} {m : Merged}
    (hm : Confined masterColumns masters) (hu : Confined usingColumns usings)
    (h : merge masters masterColumns usings usingColumns column = .ok m) :
    Confined m.columns m.rows := by
  obtain ⟨hcolumn, -, hj⟩ := leftJoin_of_merge h
  intro out hout n hmem
  -- names come from the master row, or from a row of the other sheet
  obtain ⟨master, hmaster, hjoin⟩ := exists_of_mem_right hj.rows hout
  rw [hj.mem_columns]
  rcases hjoin.mem_names hmem with rfl | hmem | ⟨u, hu', hmem⟩
  · exact .inl hcolumn
  · exact .inl (hm master hmaster n hmem)
  · exact .inr (hu u hu' n hmem)

/-- Every edit of a sheet whose rows are within their columns gives such rows, among such sheets. -/
theorem Edits.confined {ctx : Context} {sheet : Sheet} (h : Edits ctx sheet columns rows)
    (hs : sheet.Confined) (hall : ∀ d ∈ ctx.datasets, ∀ s ∈ d.sheets, s.Confined) :
    Confined columns rows := by
  cases h with
  | generated hn hg => exact generate_confined hs hg
  | dropped names => exact drop_confined hs _
  | merged hd ho hm => exact merge_confined hs (hall _ hd _ (List.mem_of_find?_eq_some ho)) hm

namespace Workbench

variable {w : Workbench}

/-- **Every console line keeps the rows of all sheets within their columns.** -/
theorem execute_confined (h : w.AllSheets Sheet.Confined) (line : String) :
    (w.execute line).1.AllSheets Sheet.Confined := by
  refine execute_allSheets h ?_
  intro f c s columns rows hr
  obtain ⟨sheet, hsheet, hedits⟩ := Command.edits_of_run hr
  exact hedits.confined (h.activeSheet (context_sheet_eq_ok.1 hsheet)) h

end Workbench

end Tabular
