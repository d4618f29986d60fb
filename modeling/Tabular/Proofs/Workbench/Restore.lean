import Mathlib
import Tabular.Proofs.Console.Lines
import Tabular.Proofs.Workbench.Fresh
import Tabular.Proofs.Workbench.Merge

/-!
# Dropping a new column again

A new column is the last one, and its cell is the last one of every row. Dropping it leaves the
columns and rows as they were, and with them the summaries, which are computed from them.

* `keep_insert`: a row without its new cell.
* `Focus.withContent_withContent` and `Focus.withContent_self`: content that is committed twice, and
  content that was there before.
* `execute_generateLine` and `execute_dropLine`: what the two lines commit.
* `run_intact`: after every run on files that were read, sheets are well formed and summaries fresh.
* `run_generate_drop`: **dropping a new column gives back the workbench as it was.**
-/

namespace Tabular

variable {name source : String}

/-! ## Rows -/

namespace Row

variable {r : Row} {c : Cell} {es : List (String × Cell)}

/-- A cell with a new name is the last one. -/
theorem put_of_notMem (h : name ∉ es.map Prod.fst) : put name c es = es ++ [(name, c)] := by
  induction es with
  | nil => rfl
  | cons e es ih =>
    rw [List.map_cons, List.mem_cons, not_or] at h
    rw [put, if_neg (Ne.symm h.1), ih h.2, List.cons_append]

/-- **Leaving out a new cell gives back the row.** -/
theorem keep_insert {p : String → Bool} (hname : p name = false)
    (hold : ∀ n ∈ r.names, p n = true) : (r.insert name c).keep p = r := by
  have hnew : name ∉ r.entries.map Prod.fst := fun hmem => by
    rw [hold name hmem] at hname
    cases hname
  have hkept : r.entries.filter (p ·.1) = r.entries :=
    List.filter_eq_self.2 fun e he => hold e.1 (List.mem_map_of_mem he)
  apply eq_of_entries
  show (put name c r.entries).filter (p ·.1) = r.entries
  rw [put_of_notMem hnew, List.filter_append, hkept]
  simp [hname]

end Row

namespace Workbench

variable {w : Workbench}

/-! ## Content that is replaced -/

/-- Of content that is committed twice the second counts. -/
theorem Focus.withContent_withContent (f : w.Focus) (content content' : Content) :
    (f.edited content).withContent content' = f.withContent content' :=
  rfl

/-- Content that a sheet has anyway changes nothing. -/
theorem Focus.withContent_self (f : w.Focus) :
    f.withContent ⟨f.sheet.columns, f.sheet.rows, f.sheet.summaries⟩ = w := by
  have hdataset : { f.dataset with sheets := f.above ++ f.sheet :: f.below } = f.dataset := by
    rw [← f.sheets_eq]
  show { w with datasets := f.before ++
    { f.dataset with sheets := f.above ++ f.sheet :: f.below } :: f.after } = w
  rw [hdataset, ← f.datasets_eq]

/-! ## The two lines -/

/-- A line that adds a column, when it changes data. -/
theorem execute_generateLine (hname : isVariableName name = true)
    (hchanged : (w.execute (generateLine name source)).2.dataChanged = true) :
    ∃ (f : w.Focus) (formula : String) (rows : List Row), name ∉ f.sheet.columns ∧
      generate f.sheet.rows f.sheet.columns name formula = .ok rows ∧
      (w.execute (generateLine name source)).1 =
        f.withContent (.profiled w.options.inference (f.sheet.columns ++ [name]) rows) := by
  obtain ⟨args, hparse⟩ := parse?_generateLine name source
  have hends := execute_ends w (generateLine name source)
  generalize w.execute (generateLine name source) = x at hends hchanged ⊢
  cases hends with
  | ignored | refused | answered | switched => cases hchanged
  | @committed c s columns rows f hc _ hr =>
    rw [hparse, Option.some.injEq] at hc
    subst hc
    obtain ⟨sheet, n, formula, rows', hsheet, hrequest, hcolumn, hrows, ho⟩ :=
      generateColumn_eq_ok.1 hr
    -- the command read the sheet that the content is committed to, and the name in the line
    obtain rfl : sheet = f.sheet :=
      Option.some.inj ((context_sheet_eq_ok.1 hsheet).symm.trans f.activeSheet?_eq)
    obtain rfl : n = name := name_of_generateRequest hname hrequest
    have hcontent := (Outcome.replace.inj ho).2
    refine ⟨f, formula, rows', by simpa [Sheet.hasColumn] using hcolumn, hrows, ?_⟩
    rw [hcontent]
    rfl

/-- A line that drops a column of the active sheet. -/
theorem execute_dropLine (hname : isVariableName name = true) (f : w.Focus)
    (hcolumn : name ∈ f.sheet.columns) :
    (w.execute (dropLine name)).1 = f.withContent (.profiled w.options.inference
      (f.sheet.columns.filter (! [name].contains ·))
      (f.sheet.rows.map (·.keep (! [name].contains ·)))) ∧
    (w.execute (dropLine name)).2.dataChanged = true := by
  have hparse := parse?_dropLine (solid_of_isVariableName hname) (ne_empty_of_isVariableName hname)
  have hrun := dropColumns_eq_ok.2 ⟨f.sheet, context_sheet_eq_ok.2 f.activeSheet?_eq,
    List.cons_ne_nil name [], by simpa using hcolumn, rfl⟩
  obtain ⟨hafter, hchanged⟩ := execute_replace f.activeSheet?_eq hparse hrun
  rw [f.commit_eq] at hafter
  exact ⟨hafter, hchanged⟩

/-! ## Both lines together -/

/-- On a sheet that is well formed and has fresh summaries the second line takes the first one
back. -/
theorem execute_generate_drop (hwf : w.AllSheets Sheet.WellFormed)
    (hfresh : w.AllSheets (·.Fresh w.options.inference)) (hname : isVariableName name = true)
    (hchanged : (w.execute (generateLine name source)).2.dataChanged = true) :
    let w' := (w.execute (generateLine name source)).1
    (w'.execute (dropLine name)).2.dataChanged = true ∧ (w'.execute (dropLine name)).1 = w := by
  obtain ⟨f, formula, rows, hnew, hrows, hafter⟩ := execute_generateLine hname hchanged
  have hsheet : f.sheet.WellFormed := hwf.activeSheet f.activeSheet?_eq
  have hsummaries : f.sheet.summaries =
      summaries w.options.inference f.sheet.rows f.sheet.columns :=
    hfresh.activeSheet f.activeSheet?_eq
  have hkept : ∀ n ∈ f.sheet.columns, (! [name].contains n) = true := by
    intro n hn
    have hne : n ≠ name := by
      rintro rfl
      exact hnew hn
    simpa using hne
  have hcolumns : (f.sheet.columns ++ [name]).filter (! [name].contains ·) = f.sheet.columns := by
    rw [List.filter_append, List.filter_eq_self.2 hkept]
    simp
  have hback : rows.map (·.keep (! [name].contains ·)) = f.sheet.rows := by
    obtain ⟨_, -, hall⟩ := generate_eq_ok.1 hrows
    have hrow : List.Forall₂ (fun r r' => r = r'.keep (! [name].contains ·)) f.sheet.rows rows := by
      refine (List.forall₂_and_left f.sheet.rows rows |>.2 ⟨hsheet.names, hall⟩).imp ?_
      rintro r r' ⟨hnames, c, -, rfl⟩
      exact (Row.keep_insert (by simp) fun n hn => hkept n (hnames n hn)).symm
    rw [← List.forall₂_map_right_iff, List.forall₂_eq_eq_eq] at hrow
    exact hrow.symm
  rw [hafter]
  obtain ⟨hdropped, hdata⟩ := execute_dropLine hname
    (f.edited (.profiled w.options.inference (f.sheet.columns ++ [name]) rows))
    (List.mem_append_right _ List.mem_cons_self)
  refine ⟨hdata, ?_⟩
  -- the options are those of the run, so the summaries are computed as before
  have hcontent : Content.profiled w.options.inference f.sheet.columns f.sheet.rows =
      ⟨f.sheet.columns, f.sheet.rows, f.sheet.summaries⟩ := by
    rw [hsummaries]
    rfl
  rw [hdropped, f.withContent_withContent]
  show f.withContent (.profiled w.options.inference
    ((f.sheet.columns ++ [name]).filter (! [name].contains ·))
    (rows.map (·.keep (! [name].contains ·)))) = w
  rw [hcolumns, hback, hcontent, f.withContent_self]

/-! ## Runs -/

/-- All sheets are well formed and have fresh summaries, by the policy of the run. -/
structure Intact (options : Options) (w : Workbench) : Prop where
  wellFormed : w.AllSheets Sheet.WellFormed
  inference : w.options.inference = options.inference
  fresh : w.AllSheets (·.Fresh options.inference)

/-- On files that were read, every run is intact. -/
theorem run_intact (options : Options) (steps : List Step)
    (loads : ∀ name tables, Step.load name tables ∈ steps → Ingested tables) :
    ((empty options).run steps).Intact options := by
  have hempty : (empty options).Intact options :=
    ⟨empty_allSheets options, rfl, empty_allSheets options⟩
  refine List.foldlRecOn steps after hempty fun w h s hs => ?_
  obtain ⟨hinference, hfresh⟩ := after_fresh s ⟨h.inference, h.fresh⟩
  refine ⟨after_wellFormed h.wellFormed fun name tables heq => loads name tables ?_,
    hinference, hfresh⟩
  rwa [← heq]

/-- **On files that were read, dropping a new column gives back the workbench as it was**, with
the same columns, rows and summaries everywhere. -/
theorem run_generate_drop (options : Options) (steps : List Step)
    (loads : ∀ name tables, Step.load name tables ∈ steps → Ingested tables)
    (hname : isVariableName name = true) (source : String)
    (hchanged : (((empty options).run steps).execute
      (generateLine name source)).2.dataChanged = true) :
    let w := (empty options).run steps
    let w' := (w.execute (generateLine name source)).1
    (w'.execute (dropLine name)).2.dataChanged = true ∧ (w'.execute (dropLine name)).1 = w := by
  have h := run_intact options steps loads
  refine execute_generate_drop h.wellFormed ?_ hname hchanged
  rw [h.inference]
  exact h.fresh

/-- On a sheet with a row that does not store all its columns, and a formula without a value. -/
theorem run_generate_drop_uneven :
    let w := (empty ⟨.first, 50⟩).run (unevenRun ++ [.execute "frame change d"])
    let w' := (w.execute (generateLine "n" "1 / 0")).1
    (w.execute (generateLine "n" "1 / 0")).2.dataChanged = true ∧
    (w'.execute (dropLine "n")).2.dataChanged = true ∧ (w'.execute (dropLine "n")).1 = w := by
  have hchanged : (((empty ⟨.first, 50⟩).run (unevenRun ++ [.execute "frame change d"])).execute
      (generateLine "n" "1 / 0")).2.dataChanged = true := by decide +kernel
  refine ⟨hchanged, run_generate_drop _ _ ?_ (by decide) _ hchanged⟩
  intro name tables h
  rcases List.mem_append.1 h with h | h
  · exact ingested_unevenRun name tables h
  · simp at h

end Workbench

end Tabular
