import Mathlib.Data.List.Forall2
import Tabular.Proofs.Workbench.Confined
import Tabular.Proofs.Workbench.Sheetwise

/-!
# Cells stay where they are

Commands that change a sheet build a new list of rows. The row at a place is still the same
observation, and only the cells that the command is about are other ones.

* `Touches` says which cells these are: those of a dropped column, and of a matched row those in
  the columns of the using sheet.
* `generate_cells`, `drop_cells` and `merge_cells`: the cells that each edit leaves.
* `execute_keepsCells`: a line leaves all cells that it does not touch.
* `run_keepsCells`: **along every run of console lines rows stay in place, and a line changes no
  cell that it does not touch.**
-/

namespace Tabular

variable {column name key : String} {r r' : Row}

/-! ## Cells that a command touches -/

/-- **The cells that a command touches**: in the columns that it drops, or, of a row with a match
in the using sheet of a merge, in the columns of that sheet except the key. -/
inductive Touches (w : Workbench) (c : Command) (r : Row) (column : String) : Prop where
  | dropped (hk : c.keyword = .drop) (h : column ∈ c.args)
  | overlaid {key word name : String} {more : List String} {d : Dataset} {other : Sheet} {u : Row}
      (hk : c.keyword = .merge) (hargs : c.args = "1:1" :: key :: word :: name :: more)
      (hd : w.find? (unquoted (name :: more)) = some d) (ho : d.active? = some other)
      (hu : Matches key other.rows r u) (hc : column ∈ other.columns) (hne : column ≠ key)

/-- A new column touches no cell. -/
theorem touches_generate {w : Workbench} {c : Command} (hk : c.keyword = .generate) :
    Touches w c = fun _ _ => False := by
  funext r column
  rw [eq_iff_iff, iff_false]
  rintro (⟨h, -⟩ | ⟨h⟩)
  · cases hk.symm.trans h
  · cases hk.symm.trans h

/-- **Rows in their places**, with the same cells in all columns of the first sheet but for those
that are touched. -/
def KeepsCells (touched : Row → String → Prop) (s s' : Sheet) : Prop :=
  List.Forall₂ (fun r r' =>
    ∀ column ∈ s.columns, ¬touched r column → r'.cell column = r.cell column) s.rows s'.rows

theorem KeepsCells.refl (touched : Row → String → Prop) (s : Sheet) : KeepsCells touched s s :=
  List.forall₂_same.2 fun _ _ _ _ _ => rfl

/-- Sheets of the same name with the same number of rows. -/
def SameHeight (s s' : Sheet) : Prop := s'.name = s.name ∧ s'.rows.length = s.rows.length

theorem SameHeight.refl (s : Sheet) : SameHeight s s := ⟨rfl, rfl⟩

theorem SameHeight.trans {s t u : Sheet} (h : SameHeight s t) (h' : SameHeight t u) :
    SameHeight s u :=
  ⟨h'.1.trans h.1, h'.2.trans h.2⟩

/-! ## Cells after an edit -/

/-- A joined row has the master's cells in the key column, in every column that the using sheet
does not have, and everywhere if there is no match. -/
theorem Joins.cell_eq {usings : List Row} {usingColumns : List String}
    (h : Joins key usings r r') (hu : Confined usingColumns usings)
    (hcolumn : ∀ u, Matches key usings r u → column ∈ usingColumns → column = key) :
    r'.cell column = r.cell column := by
  cases h with
  | unmatched _ => rfl
  | @matched u _ hm cells =>
    have hget := cells column
    unfold Row.cell
    by_cases hkey : column = key
    · subst hkey
      rw [hget, if_pos rfl]
      rfl
    · -- what the using row stores, it stores in its columns
      have hnot : column ∉ u.names := by
        intro hn
        exact hkey (hcolumn u hm (hu u hm.mem column hn))
      rw [hget, if_neg hkey, Row.get?_eq_none hnot, Option.none_or]

variable {columns : List String} {rows rows' : List Row}

/-- A new column leaves the cells of those that were there. -/
theorem generate_cells {source : String} (hn : name ∉ columns)
    (hg : generate rows columns name source = .ok rows') :
    List.Forall₂ (fun r r' => ∀ column ∈ columns, r'.cell column = r.cell column) rows rows' := by
  obtain ⟨f, -, hrows⟩ := generate_eq_ok.1 hg
  refine hrows.imp ?_
  rintro r _ ⟨c, -, rfl⟩ column hcolumn
  rw [Row.cell_insert, if_neg]
  rintro rfl
  exact hn hcolumn

/-- Dropping columns leaves the cells of the others. -/
theorem drop_cells (names : List String) (rows : List Row) :
    List.Forall₂ (fun r r' => ∀ column, column ∉ names → r'.cell column = r.cell column) rows
      (rows.map (·.keep (!names.contains ·))) := by
  rw [List.forall₂_map_right_iff, List.forall₂_same]
  intro r _ column hcolumn
  exact r.cell_keep (by simpa using hcolumn)

/-- A merge leaves the cells of rows without a match, those of the key column and those of the
columns that the using table does not have. -/
theorem merge_cells {masters usings : List Row} {masterColumns usingColumns : List String}
    {m : Merged} (hu : Confined usingColumns usings)
    (hm : merge masters masterColumns usings usingColumns key = .ok m) :
    List.Forall₂ (fun r r' => ∀ column,
      (∀ u, Matches key usings r u → column ∈ usingColumns → column = key) →
        r'.cell column = r.cell column) masters m.rows := by
  refine (leftJoin_of_merge hm).2.2.rows.imp ?_
  intro r r' hj column h
  exact hj.cell_eq hu h

/-! ## Cells after a line -/

namespace Workbench

variable {w : Workbench} {c : Command} {sheet : Sheet} {content : Content}

/-- New content has the cells of the active sheet, as far as they are not touched. -/
theorem keepsCells_of_run {text : String} (hw : w.AllSheets Sheet.Confined)
    (hs : w.activeSheet? = some sheet) (hr : c.run w.context = .ok (.replace text content)) :
    KeepsCells (Touches w c) sheet (sheet.withContent content) := by
  have hsheet {s : Sheet} (h : w.context.sheet = .ok s) : s = sheet :=
    Option.some.inj ((context_sheet_eq_ok.1 h).symm.trans hs)
  rcases Command.run_cases hr with ⟨-, s, ho⟩ | ⟨hk, -⟩ | ⟨-, s, d, -, ho⟩
  · cases ho
  · unfold Command.run at hr
    cases hc : c.keyword <;> rw [hc] at hr hk <;> simp only at hr
    case generate =>
      obtain ⟨s, name, source, rows, hs', -, hn, hg, ho⟩ := generateColumn_eq_ok.1 hr
      obtain rfl := hsheet hs'
      cases ho
      have hnew : name ∉ s.columns := by simpa [Sheet.hasColumn] using hn
      refine (generate_cells hnew hg).imp ?_
      intro r r' hcells column hcolumn _
      exact hcells column hcolumn
    case drop =>
      obtain ⟨s, hs', -, -, ho⟩ := dropColumns_eq_ok.1 hr
      obtain rfl := hsheet hs'
      cases ho
      refine (drop_cells c.args s.rows).imp ?_
      intro r r' hcells column _ hnot
      have hkept : column ∉ c.args := by
        intro hmem
        exact hnot (.dropped hc hmem)
      exact hcells column hkept
    case merge =>
      obtain ⟨key, word, name, more, s, d, other, merged, hargs, -, hs', hd, ho, hm, heq⟩ :=
        mergeDataset_eq_ok.1 hr
      obtain rfl := hsheet hs'
      cases heq
      have hd : w.find? (unquoted (name :: more)) = some d := Context.find_eq_ok.1 hd
      have hother : other.Confined :=
        hw d (List.mem_of_find?_eq_some hd) other (List.mem_of_find?_eq_some ho)
      refine (merge_cells hother hm).imp ?_
      intro r r' hcells column _ hnot
      refine hcells column ?_
      -- a column of a matched row that is not touched can only be the key
      intro u hu hcolumn
      by_contra hne
      exact hnot (.overlaid hc hargs hd ho hu hcolumn hne)
    all_goals exact absurd hk (by decide)
  · cases ho

/-- **A line keeps the cells of all sheets**, as far as they are not touched. -/
theorem execute_keepsCells {line : String} (hw : w.AllSheets Sheet.Confined)
    (hc : Command.parse? line = some c) :
    w.Sheetwise (KeepsCells (Touches w c)) (w.execute line).1 := by
  refine execute_sheetwise (.refl _) ?_
  intro f c' text columns rows hc' hr
  rw [hc, Option.some.injEq] at hc'
  subst hc'
  exact keepsCells_of_run hw f.activeSheet?_eq hr

/-- A line keeps the number of rows of all sheets. -/
theorem execute_sameHeight (hw : w.AllSheets Sheet.Confined) (line : String) :
    w.Sheetwise SameHeight (w.execute line).1 := by
  refine execute_sheetwise .refl ?_
  intro f c text columns rows _ hr
  have hkeeps := keepsCells_of_run hw f.activeSheet?_eq hr
  exact ⟨rfl, hkeeps.length_eq.symm⟩

/-- So does a run of lines. -/
theorem run_sameHeight (hw : w.AllSheets Sheet.Confined) (lines : List String) :
    (w.run (lines.map .execute)).AllSheets Sheet.Confined ∧
      w.Sheetwise SameHeight (w.run (lines.map .execute)) := by
  induction lines generalizing w with
  | nil => exact ⟨hw, .refl SameHeight.refl w⟩
  | cons line lines ih =>
    obtain ⟨hconfined, hsame⟩ := ih (execute_confined hw line)
    exact ⟨hconfined, (execute_sameHeight hw line).trans (fun _ _ _ => .trans) hsame⟩

/-- **Along every run of console lines rows stay in their places**, and no line changes a cell that
it does not touch. In particular a new column changes no cell of the other columns. -/
theorem run_keepsCells (hw : w.AllSheets Sheet.Confined) (lines : List String) :
    let v := w.run (lines.map .execute)
    v.AllSheets Sheet.Confined ∧ w.Sheetwise SameHeight v ∧
    ∀ line c, Command.parse? line = some c →
      v.Sheetwise (KeepsCells (Touches v c)) (v.execute line).1 ∧
      (c.keyword = .generate → v.Sheetwise (KeepsCells fun _ _ => False) (v.execute line).1) := by
  intro v
  obtain ⟨hconfined, hsame⟩ := run_sameHeight hw lines
  refine ⟨hconfined, hsame, ?_⟩
  intro line c hc
  have hkeeps := execute_keepsCells hconfined hc
  refine ⟨hkeeps, ?_⟩
  intro hk
  rwa [touches_generate hk] at hkeeps

/-- Two datasets, of which one is merged into the other. -/
theorem run_keepsCells_merge :
    let t : Table := ⟨"t", ["k", "x"], [.ofList [("k", .text "a"), ("x", .number 1)]]⟩
    let w : Workbench := ⟨[⟨"d", [.profiled .first t], "t"⟩, ⟨"e", [.profiled .first t], "t"⟩],
      some "d", ⟨.first, 50⟩⟩
    let v := w.run (["generate y = x + 1", "merge 1:1 k using e"].map .execute)
    w.AllSheets Sheet.Confined ∧ v.AllSheets Sheet.Confined ∧ w.Sheetwise SameHeight v ∧
    ∀ line c, Command.parse? line = some c →
      v.Sheetwise (KeepsCells (Touches v c)) (v.execute line).1 ∧
      (c.keyword = .generate → v.Sheetwise (KeepsCells fun _ _ => False) (v.execute line).1) := by
  intro t w v
  have hw : w.AllSheets Sheet.Confined := by
    intro d hd s hs r hr n hn
    simp only [w, List.mem_cons, List.not_mem_nil, or_false] at hd
    rcases hd with rfl | rfl <;> rw [List.mem_singleton] at hs <;> subst hs <;>
      rw [List.mem_singleton.1 hr] at hn <;> exact hn
  exact ⟨hw, run_keepsCells hw _⟩

end Workbench

end Tabular
