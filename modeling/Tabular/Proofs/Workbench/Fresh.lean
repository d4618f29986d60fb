import Tabular.Proofs.Workbench.Sheets

/-!
# Fresh summaries

The summaries of a sheet are computed when it is loaded and when a command gives it new
content, and only stored in between.

* `Sheet.Fresh`: the stored summaries are those of the rows and columns as they are.
* `missing_add_obs_summarize`: a summary accounts for every row.
* `run_fresh`: **in every run the summaries of every sheet are fresh.**
-/

namespace Tabular

/-- The stored summaries are those of the current rows and columns. -/
def Sheet.Fresh (policy : Inference) (s : Sheet) : Prop :=
  s.summaries = Tabular.summaries policy s.rows s.columns

theorem Table.profiled_fresh (t : Table) (policy : Inference) :
    (Sheet.profiled policy t).Fresh policy := rfl

theorem Sheet.withContent_fresh (s : Sheet) (policy : Inference) (columns : List String)
    (rows : List Row) : (s.withContent (.profiled policy columns rows)).Fresh policy := rfl

/-- There is one summary for each column, in column order. -/
theorem map_name_summaries (policy : Inference) (rows : List Row) (columns : List String) :
    (summaries policy rows columns).map (·.name) = columns := by
  simp [summaries, summarize, Function.comp_def]

/-- Every row is counted as missing or as an observation. -/
theorem missing_add_obs_summarize (policy : Inference) (rows : List Row) (name : String) :
    (summarize policy rows name).missing + (summarize policy rows name).obs = rows.length := by
  have hle : (presentCells rows name).length ≤ rows.length := by
    simpa [presentCells] using
      List.length_filter_le (fun c : Cell => !c.isMissing) (rows.map (·.cell name))
  exact Nat.sub_add_cancel hle

namespace Workbench

/-- Every step keeps the summaries of every sheet fresh. -/
theorem after_fresh {w : Workbench} {policy : Inference} (s : Step)
    (h : w.options.inference = policy ∧ w.AllSheets (·.Fresh policy)) :
    (w.after s).options.inference = policy ∧ (w.after s).AllSheets (·.Fresh policy) := by
  obtain ⟨rfl, h⟩ := h
  rw [after_options]
  exact ⟨rfl, after_allSheets h (fun _ _ _ t _ => t.profiled_fresh _)
    fun f _ _ columns rows _ => f.sheet.withContent_fresh _ columns rows⟩

/-- **In every run the summaries of every sheet are fresh**: one for each column, in column
order, each of which accounts for every current row. -/
theorem run_fresh (options : Options) (steps : List Step) :
    ((empty options).run steps).AllSheets fun s =>
      s.summaries = summaries options.inference s.rows s.columns ∧
      s.summaries.map (·.name) = s.columns ∧
      ∀ m ∈ s.summaries, m.missing + m.obs = s.rows.length := by
  have h := run_induction (P := fun w => w.options.inference = options.inference ∧
    w.AllSheets (·.Fresh options.inference)) (fun _ s => after_fresh s)
    ⟨rfl, empty_allSheets options⟩ steps
  intro d hd s hs
  have hf : s.summaries = summaries options.inference s.rows s.columns := h.2 d hd s hs
  rw [hf]
  refine ⟨rfl, map_name_summaries _ _ _, ?_⟩
  intro m hm
  obtain ⟨name, -, rfl⟩ := List.mem_map.1 hm
  exact missing_add_obs_summarize _ _ _

end Workbench

end Tabular
