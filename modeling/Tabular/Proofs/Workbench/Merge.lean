import Mathlib
import Tabular.Proofs.Workbench.WellFormed

/-!
# Merges on the console

A merge lays the cells that a using row stores over the master row. After an earlier merge a row
may store less than its sheet has columns: a row without a match gets none of the new ones.

* `Merges` is a console line that merges a sheet into the active one, with the sheets before and
  after it.
* `merge_takesOver`: **which cells are taken over.**
* `UsingWins`: every cell of a matched row is the one of its using row, missing or not. That is not
  so after every run (`unevenRun_not_usingWins`).
-/

namespace Tabular.Workbench

variable {w : Workbench} {line column : String} {other before after : Sheet}

/-! ## Lines that merge -/

/-- **A line that merges the sheet `other` into the active one**, by a key column. -/
structure Merges (w : Workbench) (line column : String) (other before after : Sheet) : Prop where
  command : ∃ c word name more d, Command.parse? line = some c ∧ c.keyword = .merge ∧
    c.args = "1:1" :: column :: word :: name :: more ∧
    w.find? (unquoted (name :: more)) = some d ∧ d.active? = some other
  changed : (w.execute line).2.dataChanged = true
  before_eq : w.activeSheet? = some before
  after_eq : (w.execute line).1.activeSheet? = some after

/-- A merge line that finds its sheets and their key column commits the merge. -/
theorem merges_of_eq_ok {c : Command} {word name : String} {more : List String} {d : Dataset}
    {merged : Merged} (hc : Command.parse? line = some c) (hk : c.keyword = .merge)
    (hargs : c.args = "1:1" :: column :: word :: name :: more) (hw : lowered word = "using")
    (hs : w.activeSheet? = some before) (hd : w.find? (unquoted (name :: more)) = some d)
    (ho : d.active? = some other)
    (hm : merge before.rows before.columns other.rows other.columns column = .ok merged) :
    (w.execute line).1 = w.commit (.profiled w.options.inference merged.columns merged.rows) ∧
      Merges w line column other before
        (before.withContent (.profiled w.options.inference merged.columns merged.rows)) := by
  have hr : c.run w.context = .ok (.replace merged.report.text
      (.profiled w.options.inference merged.columns merged.rows)) := by
    rw [Command.run_merge hk, mergeDataset_eq_ok]
    exact ⟨column, word, name, more, before, d, other, merged, hargs, hw,
      context_sheet_eq_ok.2 hs, Context.find_eq_ok.2 hd, ho, hm, rfl⟩
  obtain ⟨hafter, hchanged⟩ := execute_replace hs hc hr
  refine ⟨hafter, ⟨c, word, name, more, d, hc, hk, hargs, hd, ho⟩, hchanged, hs, ?_⟩
  rw [hafter]
  exact activeSheet?_commit _ hs

/-- The rows and columns after the line are those of the merge. -/
theorem Merges.merge_eq (h : Merges w line column other before after) : ∃ merged,
    merge before.rows before.columns other.rows other.columns column = .ok merged ∧
      after.columns = merged.columns ∧ after.rows = merged.rows := by
  obtain ⟨c, word, name, more, d, hc, hk, hargs, hd, ho⟩ := h.command
  have hends := execute_ends w line
  have hchanged := h.changed
  have hafter := h.after_eq
  generalize w.execute line = x at hends hchanged hafter
  cases hends with
  | ignored | refused | answered | switched => cases hchanged
  | @committed _ _ columns rows f hc' _ hr =>
    rw [hc, Option.some.injEq] at hc'
    subst hc'
    rw [Command.run_merge hk, hargs, mergeDataset_eq_ok] at hr
    obtain ⟨column', _, name', more', sheet, d', other', merged, hargs', -, hs, hd', ho', hm, heq⟩ :=
      hr
    simp only [List.cons.injEq, true_and] at hargs'
    obtain ⟨rfl, rfl, rfl, rfl⟩ := hargs'
    -- both readings of the line are about the same sheets
    have hsheet : sheet = before :=
      Option.some.inj ((context_sheet_eq_ok.1 hs).symm.trans h.before_eq)
    have hdataset : d' = d := Option.some.inj ((Context.find_eq_ok.1 hd').symm.trans hd)
    subst hdataset
    have hother : other' = other := Option.some.inj (ho'.symm.trans ho)
    subst hsheet hother
    rw [(f.edited _).activeSheet?_eq, Option.some.injEq] at hafter
    subst hafter
    have hcontent := (Outcome.replace.inj heq).2
    exact ⟨merged, hm, congrArg Content.columns hcontent, congrArg Content.rows hcontent⟩

/-! ## What is taken over -/

/-- Every row of the active sheet is joined with the other one. -/
theorem Merges.joins (h : Merges w line column other before after) :
    List.Forall₂ (Joins column other.rows) before.rows after.rows := by
  obtain ⟨merged, hm, -, hrows⟩ := h.merge_eq
  rw [hrows]
  exact (leftJoin_of_merge hm).2.2.rows

/-- **The using table wins on every column it has**: all cells of a matched row but the key are
those of its using row. -/
def UsingWins (column : String) (other before after : Sheet) : Prop :=
  List.Forall₂ (fun master out => ∀ u, Matches column other.rows master u →
    ∀ name ∈ other.columns, name ≠ column → out.cell name = u.cell name) before.rows after.rows

/-- **A merge takes over the cells that the using row stores.** A cell of a matched row is the one
of its using row exactly if that row stores the column or the master's cell is empty anyway. -/
theorem merge_takesOver (h : Merges w line column other before after) :
    List.Forall₂ (fun master out => ∀ u, Matches column other.rows master u →
      ∀ name ∈ other.columns, name ≠ column →
        (out.cell name = u.cell name ↔ name ∈ u.names ∨ master.cell name = .empty))
      before.rows after.rows := by
  refine h.joins.imp fun master out hj => ?_
  intro u hu name _ hne
  exact hj.cell_eq_iff hu hne

/-! ## A row that stores too little -/

/-- A row without a key, which no merge by the key reaches. -/
def shortRow : Row := .ofList [("k", .empty), ("j", .text "b")]

/-- Another one, with one more column. -/
def longRow : Row := .ofList [("k", .empty), ("j", .text "b"), ("r", .text "x")]

/-- The table that is merged into, and used later. -/
def shortTable : Table := ⟨"d", ["k", "j"], [shortRow]⟩

/-- The table with one more column. -/
def longTable : Table := ⟨"e", ["k", "j", "r"], [longRow]⟩

/-- The first table after the second one was merged into it: its row does not store the new
column. -/
def unevenTable : Table := ⟨"d", ["k", "j", "r"], [shortRow]⟩

/-- Merges the second table into the first, and then makes the second one active. -/
def unevenRun : List Step :=
  [.load "d" [shortTable], .load "e" [longTable], .execute "merge 1:1 k using e",
    .execute "frame change e"]

/-- A dataset of one table. -/
def single (t : Table) : Dataset := ⟨t.name, [.profiled .first t], t.name⟩

/-- A workbench with two datasets of one table each. -/
def pair (t u : Table) (active : String) : Workbench :=
  ⟨[single t, single u], some active, ⟨.first, 50⟩⟩

theorem ingested_unevenRun :
    ∀ name tables, Step.load name tables ∈ unevenRun → Ingested tables := by
  have hd : readCsv "d" [107, 44, 106, 10, 44, 98, 10] = .ok shortTable := by cbv
  have he : readCsv "e" [107, 44, 106, 44, 114, 10, 44, 98, 44, 120, 10] = .ok longTable := by cbv
  intro name tables h
  simp only [unevenRun, List.mem_cons, Step.load.injEq, List.not_mem_nil, or_false,
    reduceCtorEq] at h
  rcases h with ⟨-, rfl⟩ | ⟨-, rfl⟩
  · exact .csv hd
  · exact .csv he

theorem lowered_using : lowered "using" = "using" := by cbv

theorem run_unevenRun : (empty ⟨.first, 50⟩).run unevenRun = pair unevenTable longTable "e" := by
  have hu : unquoted ["e"] = "e" := by cbv
  have hloaded : ((empty ⟨.first, 50⟩).after (.load "d" [shortTable])).after
      (.load "e" [longTable]) = pair shortTable longTable "d" := by
    have hd : freeName [] "d" = "d" := by cbv
    have he : freeName ["d"] "e" = "e" := by cbv
    simp [after, load, empty, names, hd, he, Except.toOption, pair, single, shortTable, longTable]
  have hmerged : ((pair shortTable longTable "d").execute "merge 1:1 k using e").1 =
      pair unevenTable longTable "d" := by
    have hc : Command.parse? "merge 1:1 k using e" =
        some ⟨.merge, ["1:1", "k", "using", "e"], "merge 1:1 k using e"⟩ := by cbv
    have hd : (pair shortTable longTable "d").find? (unquoted ["e"]) = some (single longTable) := by
      rw [hu]
      rfl
    have hm : merge shortTable.rows shortTable.columns longTable.rows longTable.columns "k" =
        .ok ⟨unevenTable.rows, unevenTable.columns, ⟨0, 1, 0, 0⟩⟩ := by cbv
    rw [(merges_of_eq_ok hc rfl rfl lowered_using rfl hd rfl hm).1]
    rfl
  have hswitched : ((pair unevenTable longTable "d").execute "frame change e").1 =
      pair unevenTable longTable "e" := by
    have hc : Command.parse? "frame change e" =
        some ⟨.frameChange, ["change", "e"], "frame change e"⟩ := by cbv
    have hd : (pair unevenTable longTable "d").context.find (unquoted ["e"]) =
        .ok (single longTable) := by
      rw [hu]
      rfl
    have hne : unquoted ["e"] ≠ "" := by
      rw [hu]
      decide
    have hr := changeFrame_eq_ok.2 ⟨single longTable, hne, hd, rfl⟩
    rw [execute_switch hc hr]
    rfl
  rw [unevenRun, run_cons, run_cons, hloaded, run_cons, run_cons, run_nil]
  show (((pair shortTable longTable "d").execute _).1.execute _).1 = _
  rw [hmerged, hswitched]

/-- After the run a merge by the other column matches the two rows, and changes nothing. -/
theorem merges_unevenRun :
    Merges ((empty ⟨.first, 50⟩).run unevenRun) "merge 1:1 j using d" "j"
      (.profiled .first unevenTable) (.profiled .first longTable) (.profiled .first longTable) := by
  have hc : Command.parse? "merge 1:1 j using d" =
      some ⟨.merge, ["1:1", "j", "using", "d"], "merge 1:1 j using d"⟩ := by cbv
  have hu : unquoted ["d"] = "d" := by cbv
  have hd : (pair unevenTable longTable "e").find? (unquoted ["d"]) =
      some (single unevenTable) := by
    rw [hu]
    rfl
  have hm : merge longTable.rows longTable.columns unevenTable.rows unevenTable.columns "j" =
      .ok ⟨longTable.rows, longTable.columns, ⟨1, 0, 0, 0⟩⟩ := by cbv
  rw [run_unevenRun]
  exact (merges_of_eq_ok hc rfl rfl lowered_using rfl hd rfl hm).2

/-- On the rows of the run: of the missing cells of the using row one is stored, the other not. -/
theorem merge_takesOver_uneven :
    Merges ((empty ⟨.first, 50⟩).run unevenRun) "merge 1:1 j using d" "j"
      (.profiled .first unevenTable) (.profiled .first longTable) (.profiled .first longTable) ∧
    List.Forall₂ (fun master out => ∀ u, Matches "j" [shortRow] master u →
      ∀ name ∈ ["k", "j", "r"], name ≠ "j" →
        (out.cell name = u.cell name ↔ name ∈ u.names ∨ master.cell name = .empty))
      [longRow] [longRow] :=
  ⟨merges_unevenRun, merge_takesOver merges_unevenRun⟩

/-- **A using row that does not store a column leaves the master's cell standing**, though the
using table has the column and its cell there is empty. -/
theorem unevenRun_not_usingWins :
    (∀ name tables, Step.load name tables ∈ unevenRun → Ingested tables) ∧
    Merges ((empty ⟨.first, 50⟩).run unevenRun) "merge 1:1 j using d" "j"
      (.profiled .first unevenTable) (.profiled .first longTable) (.profiled .first longTable) ∧
    ¬ UsingWins "j" (.profiled .first unevenTable) (.profiled .first longTable)
      (.profiled .first longTable) := by
  refine ⟨ingested_unevenRun, merges_unevenRun, fun h => ?_⟩
  have hmatch : Matches "j" [shortRow] longRow shortRow :=
    ⟨[], [], rfl, .text (by decide), nofun⟩
  have hcell : Cell.text "x" = .empty :=
    (List.forall₂_cons.1 h).1 shortRow hmatch "r" (by decide) (by decide)
  cases hcell

end Tabular.Workbench
