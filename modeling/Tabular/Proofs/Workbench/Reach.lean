import Mathlib
import Tabular.Proofs.Console.Lines
import Tabular.Proofs.Workbench.Merge
import Tabular.Proofs.Workbench.Sound

/-!
# Reaching datasets by name

Lines name datasets in quotes. A dataset is looked up by the name that is heard, so it is reached
if that is its own name.

* `Sound.find?_name`: a loaded dataset is found by its name.
* `Switches` and `MergesWith`: what a line does with a dataset that it reaches.
* `switches_iff` and `mergesWith_iff`: **a dataset is reached exactly if its name is sayable.**
* `quotedName_reaches` says so of all runs, and `wideName_not_reached` is a run in which another
  dataset is taken for one whose name is not sayable.
-/

namespace Tabular.Workbench

variable {w : Workbench} {d : Dataset} {column : String}

/-- A loaded dataset is found by its name. -/
theorem Sound.find?_name (h : w.Sound) (hd : d ∈ w.datasets) : w.find? d.name = some d := by
  have hsome : (w.find? d.name).isSome = true := List.find?_isSome.2 ⟨d, hd, by simp⟩
  obtain ⟨e, he⟩ := Option.isSome_iff_exists.1 hsome
  have hname : e.name = d.name := by simpa using List.find?_some he
  have heq : e = d :=
    List.inj_on_of_nodup_map h.names_nodup (List.mem_of_find?_eq_some he) hd hname
  rw [← heq] at he ⊢
  exact he

/-- What is found by a name has it. -/
theorem name_of_find? {name : String} (h : w.find? name = some d) : d.name = name := by
  simpa using List.find?_some h

/-! ## Switching -/

/-- The line makes the dataset of a name active, and says so. -/
def Switches (w : Workbench) (line name : String) : Prop :=
  w.execute line = ({ w with active := some name },
    ⟨true, [⟨.command, ". " ++ line⟩, ⟨.output, s!"Switched to frame {name}"⟩], false, some name⟩)

/-- The line switches to the dataset with the name that is heard, if there is one. -/
theorem run_switchLine (ctx : Context) (name : String) :
    Command.run ⟨.frameChange, "change" :: wordsOf (quoted name), switchLine name⟩ ctx =
      changeFrame ctx (wordsOf (quoted name)) := rfl

/-- **A dataset is switched to exactly if its name is sayable.** -/
theorem switches_iff (h : w.Sound) (hd : d ∈ w.datasets) (hne : d.name ≠ "") :
    w.Switches (switchLine d.name) d.name ↔ Sayable d.name := by
  have hparse := parse?_switchLine d.name
  unfold Switches
  constructor
  · intro hs
    cases hr : changeFrame w.context (wordsOf (quoted d.name)) with
    | error e =>
      -- an error is no output
      rw [execute_refused hparse (run_switchLine _ _ ▸ hr)] at hs
      simp at hs
    | ok o =>
      obtain ⟨e, -, he, rfl⟩ := changeFrame_eq_ok.1 hr
      rw [unquoted_wordsOf_quoted, Context.find_eq_ok] at he
      rw [execute_switched hparse (run_switchLine _ _ ▸ hr)] at hs
      have hname : e.name = d.name := by
        have := congrArg (·.2.active) hs
        simpa using this
      rw [← heard_eq_iff, ← name_of_find? he, hname]
  · intro hs
    have hheard : unquoted (wordsOf (quoted d.name)) = d.name := by
      rw [unquoted_wordsOf_quoted, heard_eq_iff.2 hs]
    have hr : changeFrame w.context (wordsOf (quoted d.name)) =
        .ok (.switch s!"Switched to frame {d.name}" d.name) := by
      refine changeFrame_eq_ok.2 ⟨d, ?_, ?_, rfl⟩
      · rwa [hheard]
      · rw [hheard]
        exact Context.find_eq_ok.2 (h.find?_name hd)
    exact execute_switched hparse (run_switchLine _ _ ▸ hr)

/-! ## Merging -/

/-- The line merges the active sheet of a dataset into the active one, by a key column. -/
def MergesWith (w : Workbench) (line column : String) (d : Dataset) : Prop :=
  ∃ c word name more other before after, Command.parse? line = some c ∧ c.keyword = .merge ∧
    c.args = "1:1" :: column :: word :: name :: more ∧
    w.find? (unquoted (name :: more)) = some d ∧ d.active? = some other ∧
    Merges w line column other before after

/-- Two tables with the key column can be merged. -/
theorem exists_merge (masters usings : List Row) {masterColumns usingColumns : List String}
    (hm : column ∈ masterColumns) (hu : column ∈ usingColumns) :
    ∃ merged, merge masters masterColumns usings usingColumns column = .ok merged := by
  unfold merge
  rw [if_neg (not_not.2 hm), if_neg (not_not.2 hu)]
  exact ⟨_, rfl⟩

/-- **A dataset is merged exactly if its name is sayable**, when both sheets have the key column
and it is a single word. -/
theorem mergesWith_iff {master other : Sheet} (h : w.Sound) (hd : d ∈ w.datasets)
    (hcolumn : Solid column.toList) (hne : column ≠ "") (hs : w.activeSheet? = some master)
    (ho : d.active? = some other) (hm : column ∈ master.columns) (hu : column ∈ other.columns) :
    w.MergesWith (mergeLine column d.name) column d ↔ Sayable d.name := by
  have hparse := parse?_mergeLine hcolumn hne d.name
  have hheard := unquoted_wordsOf_quoted d.name
  obtain ⟨name, more, hwords⟩ := List.exists_cons_of_ne_nil (wordsOf_quoted_ne_nil d.name)
  rw [hwords] at hparse hheard
  constructor
  · rintro ⟨c, word, name', more', _, _, _, hc, -, hargs, hfind, -⟩
    rw [hparse, Option.some.injEq] at hc
    subst hc
    simp only [List.cons.injEq, true_and] at hargs
    obtain ⟨-, rfl, rfl⟩ := hargs
    rw [hheard] at hfind
    exact heard_eq_iff.1 (name_of_find? hfind).symm
  · intro hsayable
    rw [heard_eq_iff.2 hsayable] at hheard
    have hfind : w.find? (unquoted (name :: more)) = some d := by
      rw [hheard]
      exact h.find?_name hd
    obtain ⟨merged, hmerged⟩ := exists_merge master.rows other.rows hm hu
    have hmerges := (merges_of_eq_ok hparse rfl rfl lowered_using hs hfind ho hmerged).2
    exact ⟨_, "using", name, more, other, master, _, hparse, rfl, rfl, hfind, ho, hmerges⟩

/-! ## Runs -/

/-- **A loaded dataset is reached by its name in quotes exactly if the name is sayable**: by the
line that switches to it, and by lines that merge it by a key column of both sheets. -/
theorem quotedName_reaches (options : Options) (steps : List Step) (d : Dataset)
    (hd : d ∈ ((empty options).run steps).datasets) (hne : d.name ≠ "") :
    let w := (empty options).run steps
    (w.Switches (switchLine d.name) d.name ↔ Sayable d.name) ∧
    ∀ column master other, Solid column.toList → column ≠ "" →
      w.activeSheet? = some master → d.active? = some other →
      column ∈ master.columns → column ∈ other.columns →
      (w.MergesWith (mergeLine column d.name) column d ↔ Sayable d.name) := by
  have hsound : ((empty options).run steps).Sound :=
    run_induction after_sound (empty_sound options) steps
  refine ⟨switches_iff hsound hd hne, ?_⟩
  intro column master other hcolumn hne' hs ho hm hu
  exact mergesWith_iff hsound hd hcolumn hne' hs ho hm hu

/-! ## Names that are heard alike -/

/-- A table of one cell. -/
def cellTable (name : String) : Table := ⟨name, ["k"], [.ofList [("k", .text "x")]]⟩

/-- Loads two datasets whose names differ by one blank. -/
def alikeRun : List Step := [.load "a b" [cellTable "a b"], .load "a  b" [cellTable "a  b"]]

theorem run_alikeRun :
    (empty ⟨.first, 50⟩).run alikeRun = pair (cellTable "a b") (cellTable "a  b") "a b" := by
  have hnarrow : freeName [] "a b" = "a b" := by cbv
  have hwide : freeName ["a b"] "a  b" = "a  b" := by cbv
  simp [alikeRun, after, load, empty, names, hnarrow, hwide, Except.toOption, pair, single,
    cellTable]

/-- On the dataset whose name has a single blank: it is switched to and merged. -/
theorem quotedName_reaches_narrow :
    let w := (empty ⟨.first, 50⟩).run alikeRun
    single (cellTable "a b") ∈ w.datasets ∧
    w.Switches (switchLine "a b") "a b" ∧
    w.MergesWith (mergeLine "k" "a b") "k" (single (cellTable "a b")) := by
  have hmem : single (cellTable "a b") ∈ ((empty ⟨.first, 50⟩).run alikeRun).datasets := by
    simp [run_alikeRun, pair]
  have hactive : ((empty ⟨.first, 50⟩).run alikeRun).activeSheet? =
      some (.profiled .first (cellTable "a b")) := by
    rw [run_alikeRun]
    rfl
  have hsayable : Sayable "a b" := ⟨by decide, by simp [isBlank], by decide⟩
  obtain ⟨hswitches, hmerges⟩ := quotedName_reaches ⟨.first, 50⟩ alikeRun
    (single (cellTable "a b")) hmem (by decide)
  exact ⟨hmem, hswitches.2 hsayable,
    (hmerges "k" _ _ (by decide) (by decide) hactive rfl (by decide) (by decide)).2 hsayable⟩

/-- **A dataset whose name has two blanks is not reached**: the line that names it switches to
the other one, and no merge line takes its sheet. -/
theorem wideName_not_reached :
    let w := (empty ⟨.first, 50⟩).run alikeRun
    ∃ d ∈ w.datasets, trimmed d.name ≠ "" ∧
      ¬ w.Switches (switchLine d.name) d.name ∧
      (w.execute (switchLine d.name)).1.active = some "a b" ∧ "a b" ≠ d.name ∧
      ∃ master other, w.activeSheet? = some master ∧ d.active? = some other ∧
        "k" ∈ master.columns ∧ "k" ∈ other.columns ∧
        ¬ w.MergesWith (mergeLine "k" d.name) "k" d := by
  have hmem : single (cellTable "a  b") ∈ ((empty ⟨.first, 50⟩).run alikeRun).datasets := by
    simp [run_alikeRun, pair]
  have hactive : ((empty ⟨.first, 50⟩).run alikeRun).activeSheet? =
      some (.profiled .first (cellTable "a b")) := by
    rw [run_alikeRun]
    rfl
  have hsound : ((empty ⟨.first, 50⟩).run alikeRun).Sound :=
    run_induction after_sound (empty_sound _) alikeRun
  have hnot : ¬ Sayable "a  b" := fun h => h.single (by decide)
  have hother : (((empty ⟨.first, 50⟩).run alikeRun).execute (switchLine "a  b")).1.active =
      some "a b" := by decide +kernel
  refine ⟨single (cellTable "a  b"), hmem, by decide, ?_, hother, by decide,
    _, _, hactive, rfl, by decide, by decide, ?_⟩
  · exact fun h => hnot ((switches_iff hsound hmem (by decide)).1 h)
  · exact fun h => hnot ((mergesWith_iff hsound hmem (by decide) (by decide) hactive rfl
      (by decide) (by decide)).1 h)

end Tabular.Workbench
