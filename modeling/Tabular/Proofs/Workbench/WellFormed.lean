import Mathlib
import Tabular.Proofs.Intake
import Tabular.Proofs.Workbench.Confined

/-!
# Well-formed sheets

Commands build new rows and a new list of columns apart from each other. A sheet is well formed
when they still belong together.

* `WellFormed`: distinct columns, rows with no other names, and no number that is not finite.
* `generate_wellFormed`, `drop_wellFormed` and `merge_wellFormed`: every edit keeps this, and
  `Edits.wellFormed` collects them. A merge brings in rows of another sheet, so that one has to
  be well formed too.
* `run_wellFormed`: **on files that were read, every run keeps all sheets well formed.**
-/

namespace Tabular

variable {columns : List String} {rows : List Row}

/-- **Rows and columns belong together**, and all numbers are finite. -/
structure WellFormed (columns : List String) (rows : List Row) : Prop where
  nodup : columns.Nodup
  names : ∀ r ∈ rows, ∀ n ∈ r.names, n ∈ columns
  finite : ∀ r ∈ rows, r.Finite

theorem Filled.wellFormed (h : Filled columns rows) : WellFormed columns rows :=
  ⟨h.nodup, fun r hr n => (h.names r hr n).1, h.finite⟩

/-! ## Every edit keeps sheets well formed -/

/-- A value that is stored is finite, whatever the formula gives. -/
theorem Scalar.finite_toCell (v : Scalar) : v.toCell.Finite := by
  cases v with
  | number x =>
    unfold toCell
    dsimp only
    split
    · exact Cell.finite_number (by assumption)
    · exact Cell.finite_empty
  | text s => exact Cell.finite_text s

theorem Formula.finite_evaluate {f : Formula} {r : Row} {c : Cell} (h : f.evaluate r = .ok c) :
    c.Finite := by
  obtain ⟨v, -, rfl⟩ := map_eq_ok.1 h
  exact v.finite_toCell

theorem generate_wellFormed {name source : String} {rows' : List Row}
    (h : WellFormed columns rows) (hn : name ∉ columns)
    (hg : generate rows columns name source = .ok rows') :
    WellFormed (columns ++ [name]) rows' := by
  obtain ⟨f, -, hrows⟩ := generate_eq_ok.1 hg
  refine ⟨?_, ?_, ?_⟩
  · rw [← List.concat_eq_append]
    exact .concat hn h.nodup
  · exact generate_confined h.names hg
  · intro r' hr'
    obtain ⟨r, hr, c, hc, rfl⟩ := exists_of_mem_right hrows hr'
    exact (h.finite r hr).insert (Formula.finite_evaluate hc)

theorem drop_wellFormed (h : WellFormed columns rows) (kept : String → Bool) :
    WellFormed (columns.filter kept) (rows.map (·.keep kept)) := by
  refine ⟨h.nodup.filter _, drop_confined h.names kept, ?_⟩
  intro r' hr'
  obtain ⟨r, hr, rfl⟩ := List.mem_map.1 hr'
  exact (h.finite r hr).keep kept

theorem Joins.finite {column : String} {usings : List Row} {master out : Row}
    (h : Joins column usings master out) (hm : master.Finite) (hu : ∀ u ∈ usings, u.Finite) :
    out.Finite := by
  cases h with
  | @matched u _ hmatch cells =>
    rw [Row.finite_iff]
    intro n c hc
    rw [cells n] at hc
    split at hc
    · cases hc
      exact hm.cell column
    · rcases Option.or_eq_some_iff.1 hc with hc | ⟨-, hc⟩
      · exact Row.finite_iff.1 (hu u hmatch.mem) n c hc
      · exact Row.finite_iff.1 hm n c hc
  | unmatched _ => exact hm

theorem merge_wellFormed {column : String} {masters usings : List Row}
    {masterColumns usingColumns : List String} {m : Merged}
    (hm : WellFormed masterColumns masters) (hu : WellFormed usingColumns usings)
    (h : merge masters masterColumns usings usingColumns column = .ok m) :
    WellFormed m.columns m.rows := by
  obtain ⟨-, -, hj⟩ := leftJoin_of_merge h
  refine ⟨?_, merge_confined hm.names hu.names h, ?_⟩
  · rw [hj.columns, ← mergeColumns_eq]
    exact nodup_mergeColumns hm.nodup
  · intro out hout
    obtain ⟨master, hmaster, hjoin⟩ := exists_of_mem_right hj.rows hout
    exact hjoin.finite (hm.finite master hmaster) hu.finite

/-- The sheet is well formed. -/
def Sheet.WellFormed (s : Sheet) : Prop := Tabular.WellFormed s.columns s.rows

/-- Every edit of a well-formed sheet gives one, among well-formed sheets. -/
theorem Edits.wellFormed {ctx : Context} {sheet : Sheet} (h : Edits ctx sheet columns rows)
    (hs : sheet.WellFormed) (hall : ∀ d ∈ ctx.datasets, ∀ s ∈ d.sheets, s.WellFormed) :
    WellFormed columns rows := by
  cases h with
  | generated hn hg =>
    exact generate_wellFormed hs (by simpa [Sheet.hasColumn] using hn) hg
  | dropped names => exact drop_wellFormed hs _
  | merged hd ho hm => exact merge_wellFormed hs (hall _ hd _ (List.mem_of_find?_eq_some ho)) hm

/-! ## Every run keeps sheets well formed -/

namespace Workbench

variable {w : Workbench}

theorem after_wellFormed {s : Step} (h : w.AllSheets Sheet.WellFormed)
    (hl : ∀ name tables, s = .load name tables → Ingested tables) :
    (w.after s).AllSheets Sheet.WellFormed := by
  refine after_allSheets h ?_ ?_
  · intro name tables hs t ht
    exact ((hl name tables hs).filled t ht).wellFormed
  · intro f c s columns rows hr
    obtain ⟨sheet, hsheet, hedits⟩ := Command.edits_of_run hr
    exact hedits.wellFormed (h.activeSheet (context_sheet_eq_ok.1 hsheet)) h

/-- **On files that were read, every run keeps all sheets well formed**, and right after reading
the names in every row are exactly the columns. -/
theorem run_wellFormed (options : Options) (steps : List Step)
    (loads : ∀ name tables, Step.load name tables ∈ steps → Ingested tables) :
    ((empty options).run steps).AllSheets Sheet.WellFormed ∧
    ∀ tables, Ingested tables → ∀ t ∈ tables, ∀ r ∈ t.rows, ∀ n, n ∈ r.names ↔ n ∈ t.columns := by
  refine ⟨?_, fun tables ht t hmem => (ht.filled t hmem).names⟩
  unfold run
  refine List.foldlRecOn steps after (empty_allSheets options) fun w h s hs => ?_
  refine after_wellFormed h fun name tables heq => loads name tables ?_
  rwa [← heq]

/-- A file of one column, to which another one is added. -/
theorem run_wellFormed_csv :
    ((empty ⟨.first, 50⟩).run [
      .load "t" [⟨"t", ["k"], [.ofList [("k", .text "a")]]⟩],
      .execute "generate n = 1 / 0"]).AllSheets Sheet.WellFormed := by
  have hcsv : readCsv "t" [107, 10, 97, 10] =
      .ok ⟨"t", ["k"], [.ofList [("k", .text "a")]]⟩ := by cbv
  refine (run_wellFormed _ _ fun name tables hs => ?_).1
  simp only [List.mem_cons, Step.load.injEq, List.not_mem_nil, or_false, reduceCtorEq] at hs
  obtain ⟨-, rfl⟩ := hs
  exact .csv hcsv

end Workbench

end Tabular
