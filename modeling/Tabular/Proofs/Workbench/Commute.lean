import Mathlib
import Tabular.Proofs.Console.Reads
import Tabular.Proofs.Sheet
import Tabular.Workbench

/-!
# Lines on different datasets

A line that is no `frame` command reads the active dataset, for a merge one more, and changes the
active one only. So lines that are executed on different datasets can change places, if neither
merges the dataset of the other.

* `Workbench.edit` is what a line makes of the active dataset, and `execute_fst` says that this is
  all it changes.
* `ReadsAlike`: two workbenches are alike in what a line reads; `ReadsAlike.edit_eq` and
  `ReadsAlike.executed_eq`: then it gives the same in both.
* `readsAlike_of_ne`: a line reads nothing that another one changes elsewhere.
* `execute_commute`: **lines on different datasets commute.**
-/

namespace Tabular.Workbench

variable {w w' : Workbench} {line : String} {a b : String}

/-! ## What a line changes -/

/-- What a line makes of the active dataset. -/
def edit (w : Workbench) (line : String) (d : Dataset) : Dataset :=
  match (interpret w.context line).content, w.activeSheet? with
  | some content, some _ => d.mapActive (·.withContent content)
  | _, _ => d

theorem name_edit (w : Workbench) (line : String) (d : Dataset) :
    (w.edit line d).name = d.name := by
  unfold edit
  split <;> rfl

/-- A line that is no `frame` command switches to no dataset. -/
theorem switchTo_interpret (hline : SparesFrames line) (ctx : Context) :
    (interpret ctx line).switchTo = none := by
  unfold interpret
  split
  · rfl
  · rename_i c hc
    cases hr : c.run ctx with
    | error e => rfl
    | ok o =>
      rcases Command.run_cases hr with ⟨-, s, rfl⟩ | ⟨-, s, sheet, columns, rows, -, rfl⟩ | ⟨hk, -⟩
      · rfl
      · rfl
      · exact absurd hk (hline c hc).1

/-- **A line that is no `frame` command edits the active dataset** and changes nothing else. -/
theorem execute_fst (hline : SparesFrames line) :
    (w.execute line).1 = { w with
      datasets := mapFirst (fun d => some d.name == w.active) (w.edit line) w.datasets } := by
  unfold execute edit
  dsimp only
  rw [switchTo_interpret hline]
  -- without content, or without an active sheet to put it into, all datasets stay as they are
  cases (interpret w.context line).content with
  | none => simp only [mapFirst_id, Option.none_or]
  | some content =>
    cases w.activeSheet? with
    | none => simp only [mapFirst_id, Option.none_or]
    | some sheet => rfl

/-- What a line that is no `frame` command answers. -/
theorem execute_snd (hline : SparesFrames line) : (w.execute line).2 =
    let r := interpret w.context line
    ⟨r.handled, r.logs, r.content.isSome && w.activeSheet?.isSome, w.active⟩ := by
  unfold execute
  dsimp only
  rw [switchTo_interpret hline]
  cases (interpret w.context line).content with
  | none => rfl
  | some content =>
    cases w.activeSheet? with
    | none => rfl
    | some sheet => rfl

/-! ## What a line reads -/

/-- **Two workbenches are alike in what a line reads.** -/
structure ReadsAlike (w w' : Workbench) (line : String) : Prop where
  active : w.active = w'.active
  options : w.options = w'.options
  dataset : w.activeDataset? = w'.activeDataset?
  used : ∀ name, Uses line name → w.context.find name = w'.context.find name

namespace ReadsAlike

theorem interpret_eq (h : ReadsAlike w w' line) (hline : SparesFrames line) :
    interpret w.context line = interpret w'.context line := by
  unfold interpret
  split
  · rfl
  · rename_i c hc
    have hused : ∀ name, c.using? = some name → w.context.find name = w'.context.find name := by
      intro name hn
      exact h.used name ⟨c, hc, hn⟩
    rw [Command.run_congr (hline c hc) h.dataset h.options hused]

theorem activeSheet?_eq (h : ReadsAlike w w' line) : w.activeSheet? = w'.activeSheet? := by
  unfold activeSheet?
  rw [h.dataset]

/-- The same is made of the active dataset. -/
theorem edit_eq (h : ReadsAlike w w' line) (hline : SparesFrames line) :
    w.edit line = w'.edit line := by
  unfold edit
  rw [h.interpret_eq hline, h.activeSheet?_eq]

/-- The same is answered. -/
theorem executed_eq (h : ReadsAlike w w' line) (hline : SparesFrames line) :
    (w.execute line).2 = (w'.execute line).2 := by
  rw [execute_snd hline, execute_snd hline, h.interpret_eq hline, h.activeSheet?_eq, h.active]

end ReadsAlike

/-! ## Two datasets -/

/-- The workbench with another active dataset. -/
def activate (w : Workbench) (name : String) : Workbench := { w with active := some name }

/-- A line on one dataset changes nothing that a line on another one reads. -/
theorem readsAlike_of_ne {line' : String} (hab : a ≠ b) (hline : SparesFrames line)
    (hu : ¬Uses line' a) :
    ReadsAlike (w.activate b) (((w.activate a).execute line).1.activate b) line' := by
  rw [execute_fst hline]
  let edited := mapFirst (fun d => some d.name == some a) ((w.activate a).edit line) w.datasets
  have hnames : w.datasets.map (·.name) = edited.map (·.name) := (map_mapFirst (name_edit _ _)).symm
  -- a dataset that is not the edited one is found unchanged under its name
  have hfind (name : String) (hne : name ≠ a) :
      w.datasets.find? (·.name == name) = edited.find? (·.name == name) := by
    refine (find?_mapFirst ?_ ?_).symm
    · intro d hd
      have hda : d.name = a := by simpa using hd
      rw [hda]
      exact beq_false_of_ne hne.symm
    · intro d
      rw [name_edit]
  refine ⟨rfl, rfl, hfind b hab.symm, ?_⟩
  intro name hn
  have hne : name ≠ a := by
    rintro rfl
    exact hu hn
  exact Context.find_congr hnames (hfind name hne)

/-- The datasets after a line on one of them and a line on another one. -/
theorem datasets_execute_execute {line' : String} (hab : a ≠ b) (hline : SparesFrames line)
    (hline' : SparesFrames line') (hu : ¬Uses line' a) :
    ((((w.activate a).execute line).1.activate b).execute line').1.datasets =
      mapFirst (fun d => some d.name == some b) ((w.activate b).edit line')
        (mapFirst (fun d => some d.name == some a) ((w.activate a).edit line) w.datasets) := by
  have halike : ReadsAlike (w.activate b) (((w.activate a).execute line).1.activate b) line' :=
    readsAlike_of_ne hab hline hu
  rw [execute_fst hline', ← halike.edit_eq hline', execute_fst hline]
  rfl

/-- **Lines on different datasets commute**, if neither of them is a `frame` command or merges the
dataset of the other: the datasets after both are the same in either order, and each line gives
the same answer. -/
theorem execute_commute (w : Workbench) {line line' : String} (hab : a ≠ b)
    (hline : SparesFrames line) (hline' : SparesFrames line') (hu : ¬Uses line b)
    (hu' : ¬Uses line' a) :
    let first := (w.activate a).execute line
    let second := (first.1.activate b).execute line'
    let first' := (w.activate b).execute line'
    let second' := (first'.1.activate a).execute line
    second.1.datasets = second'.1.datasets ∧ first.2 = second'.2 ∧ second.2 = first'.2 := by
  intro first second first' second'
  have halike : ReadsAlike (w.activate a) (first'.1.activate a) line :=
    readsAlike_of_ne hab.symm hline' hu
  have halike' : ReadsAlike (w.activate b) (first.1.activate b) line' :=
    readsAlike_of_ne hab hline hu'
  refine ⟨?_, halike.executed_eq hline, (halike'.executed_eq hline').symm⟩
  calc second.1.datasets
      = mapFirst (fun d => some d.name == some b) ((w.activate b).edit line')
          (mapFirst (fun d => some d.name == some a) ((w.activate a).edit line) w.datasets) :=
        datasets_execute_execute hab hline hline' hu'
    _ = mapFirst (fun d => some d.name == some a) ((w.activate a).edit line)
          (mapFirst (fun d => some d.name == some b) ((w.activate b).edit line') w.datasets) := by
        refine mapFirst_comm ?_ (fun d => by rw [name_edit]) fun d => by rw [name_edit]
        intro d hd
        have hdb : d.name = b := by simpa using hd
        simpa [hdb] using hab.symm
    _ = second'.1.datasets := (datasets_execute_execute hab.symm hline' hline hu).symm

/-- A merge and a drop, on two datasets of three. -/
theorem execute_commute_merge :
    let d (name : String) : Dataset :=
      ⟨name, [.profiled .first ⟨"t", ["k"], [.ofList [("k", .text name)]]⟩], "t"⟩
    let w : Workbench := ⟨[d "a", d "b", d "c"], some "a", ⟨.first, 50⟩⟩
    let line := "merge 1:1 k using c"
    let line' := "drop k"
    "a" ≠ "b" ∧ SparesFrames line ∧ SparesFrames line' ∧ ¬Uses line "b" ∧ ¬Uses line' "a" ∧
    let first := (w.activate "a").execute line
    let second := (first.1.activate "b").execute line'
    let first' := (w.activate "b").execute line'
    let second' := (first'.1.activate "a").execute line
    second.1.datasets = second'.1.datasets ∧ first.2 = second'.2 ∧ second.2 = first'.2 := by
  intro d w line line'
  have hparse : Command.parse? line = some ⟨.merge, ["1:1", "k", "using", "c"], line⟩ := by cbv
  have hparse' : Command.parse? line' = some ⟨.drop, ["k"], line'⟩ := by cbv
  have hline : SparesFrames line := by
    intro c hc
    rw [hparse, Option.some.injEq] at hc
    subst hc
    exact ⟨nofun, nofun⟩
  have hline' : SparesFrames line' := by
    intro c hc
    rw [hparse', Option.some.injEq] at hc
    subst hc
    exact ⟨nofun, nofun⟩
  have hu : ¬Uses line "b" := by
    rintro ⟨c, hc, hn⟩
    rw [hparse, Option.some.injEq] at hc
    subst hc
    have hused : Command.using? ⟨.merge, ["1:1", "k", "using", "c"], line⟩ = some "c" := by cbv
    rw [hused, Option.some.injEq] at hn
    exact absurd hn (by decide)
  have hu' : ¬Uses line' "a" := by
    rintro ⟨c, hc, hn⟩
    rw [hparse', Option.some.injEq] at hc
    subst hc
    cases hn
  have hab : "a" ≠ "b" := by decide
  exact ⟨hab, hline, hline', hu, hu', execute_commute w hab hline hline' hu hu'⟩

end Tabular.Workbench
