import Tabular.Proofs.Console.Alike
import Tabular.Proofs.Workbench.Confined
import Tabular.Proofs.Workbench.Sheetwise

/-!
# Cells that are not stored

A row may store an empty cell in a column or no cell at all. Workbenches that differ in nothing
else are told apart by no console line and by no exact sum.

* `Workbench.Alike` are such workbenches.
* `Alike.groundTruth_eq`: their exact sums are the same.
* `Comparable` are the lines that read the same in both: all but merges of a dataset whose rows
  differ. `Alike.execute` is one such line and `Alike.run` a run of them.
* `Alike.indistinguishable`: **a cell that is not stored is like an empty one.**
-/

namespace Tabular.Workbench

variable {w w' : Workbench} {line : String}

/-- **Workbenches that differ only in which empty cells their rows store**, under the names of
columns. -/
structure Alike (w w' : Workbench) : Prop where
  options : w'.options = w.options
  active : w'.active = w.active
  sheets : w.Sheetwise Sheet.Alike w'
  confined : w.AllSheets Sheet.Confined
  confined' : w'.AllSheets Sheet.Confined

namespace Alike

/-! ## What is read -/

theorem find? (h : w.Alike w') (name : String) :
    Option.Rel Dataset.Alike (w.find? name) (w'.find? name) := by
  refine find?_rel h.sheets ?_
  intro d d' hd
  rw [hd.name]

theorem activeDataset? (h : w.Alike w') :
    Option.Rel Dataset.Alike w.activeDataset? w'.activeDataset? := by
  unfold Workbench.activeDataset?
  rw [h.active]
  cases w.active with
  | none => exact .none
  | some name => exact h.find? name

theorem context (h : w.Alike w') : w.context.Alike w'.context :=
  ⟨h.activeDataset?, h.sheets, h.options⟩

theorem activeSheet? (h : w.Alike w') :
    Option.Rel Sheet.Alike w.activeSheet? w'.activeSheet? := by
  have hactive := h.activeDataset?
  unfold Workbench.activeSheet?
  generalize w.activeDataset? = x, w'.activeDataset? = y at hactive ⊢
  cases hactive with
  | none => exact .none
  | some hd => exact Sheet.Agree.active? hd

/-- **The exact sums are the same.** -/
theorem groundTruth_eq (h : w.Alike w') (scope : Scope) :
    w.groundTruth scope = w'.groundTruth scope := by
  have hdataset : EndsAlike Dataset.Alike w.activeDataset w'.activeDataset := by
    have hactive := h.activeDataset?
    unfold Workbench.activeDataset
    generalize w.activeDataset? = x, w'.activeDataset? = y at hactive ⊢
    cases hactive with
    | none => exact .error _
    | some hd => exact .ok hd
  refine hdataset.bind_eq ?_
  intro d d' hd
  refine (Sheet.Agree.sheetOf hd).bind_eq ?_
  intro s t hst
  simp only [hst.checkColumns_eq, hst.summaries, h.options, groundTruth_congr hst.rows]

/-! ## What is changed -/

theorem commit (h : w.Alike w') {c c' : Content} (hc : c.Alike c') :
    (w.commit c).Sheetwise Sheet.Alike (w'.commit c') := by
  refine mapFirst_rel h.sheets ?_ ?_
  · intro d d' hd
    rw [hd.name, h.active]
  · intro d d' hd
    refine hd.mapActive (fun _ _ hst => hst.name) ?_
    intro s t hst
    exact ⟨hst.name, hc.columns, hc.summaries, hc.rows⟩

end Alike

/-! ## Lines -/

/-- **The line reads the same in both workbenches**: it is no merge, or the dataset that it merges
stores the same in both. -/
inductive Comparable (w w' : Workbench) (line : String) : Prop where
  | other (h : ∀ c, Command.parse? line = some c → c.keyword ≠ .merge)
  | merge (h : ∀ name d d', Uses line name → w.find? name = some d → w'.find? name = some d' →
      d.Same d')

namespace Alike

/-- A dataset that a comparable line merges is found in both workbenches or in none. -/
theorem find_of_uses (h : w.Alike w') (hline : Comparable w w' line) {name : String}
    (hu : Uses line name) :
    EndsAlike Dataset.Same (w.context.find name) (w'.context.find name) := by
  have hfind := h.context.find name
  cases hline with
  | other hother =>
    obtain ⟨c, hc, hn⟩ := hu
    exact absurd (Command.keyword_of_using? hn) (hother c hc)
  | merge hmerge =>
    cases hx : w.context.find name <;> cases hy : w'.context.find name <;> rw [hx, hy] at hfind
    case error.error =>
      cases hfind
      exact .error _
    case ok.ok =>
      exact .ok (hmerge name _ _ hu (Context.find_eq_ok.1 hx) (Context.find_eq_ok.1 hy))
    all_goals cases hfind

/-- **A comparable line gives the same answer and leaves the workbenches alike.** -/
theorem execute (h : w.Alike w') (hline : Comparable w w' line) :
    (w.execute line).2 = (w'.execute line).2 ∧
      (w.execute line).1.Alike (w'.execute line).1 := by
  have hi : (interpret w.context line).Alike (interpret w'.context line) := by
    refine interpret_alike h.context ?_
    intro name hu
    exact h.find_of_uses hline hu
  have hs := h.activeSheet?
  have hends : (w.execute line).2 = (w'.execute line).2 ∧
      (w'.execute line).1.options = (w.execute line).1.options ∧
      (w'.execute line).1.active = (w.execute line).1.active ∧
      (w.execute line).1.Sheetwise Sheet.Alike (w'.execute line).1 := by
    unfold Workbench.execute
    generalize interpret w.context line = r, interpret w'.context line = r' at hi
    generalize w.activeSheet? = x, w'.activeSheet? = y at hs
    obtain ⟨handled, logs, content, switchTo⟩ := r
    obtain ⟨handled', logs', content', switchTo'⟩ := r'
    obtain ⟨rfl, rfl, hcontent, rfl⟩ := hi
    dsimp only at hcontent ⊢
    -- content is committed in both workbenches or in none
    cases hcontent with
    | none => exact ⟨by simp only [h.active], h.options, by simp only [h.active], h.sheets⟩
    | some hc =>
      cases hs with
      | none => exact ⟨by simp only [h.active], h.options, by simp only [h.active], h.sheets⟩
      | some _ =>
        exact ⟨by simp only [Workbench.commit, h.active], h.options,
          by simp only [Workbench.commit, h.active], h.commit hc⟩
  obtain ⟨hanswer, hoptions, hactive, hsheets⟩ := hends
  exact ⟨hanswer, hoptions, hactive, hsheets, execute_confined h.confined line,
    execute_confined h.confined' line⟩

end Alike

/-! ## Runs of lines -/

/-- What the lines of a run give, in their order. -/
def answers (w : Workbench) : List String → List Executed
  | [] => []
  | line :: lines => (w.execute line).2 :: answers (w.execute line).1 lines

/-- **Every line of a run is comparable** when its turn comes. -/
def ComparableRun (w w' : Workbench) : List String → Prop
  | [] => True
  | line :: lines =>
    Comparable w w' line ∧ ComparableRun (w.execute line).1 (w'.execute line).1 lines

/-- Comparable lines give the same answers and leave the workbenches alike. -/
theorem Alike.run {lines : List String} (h : w.Alike w') (hlines : ComparableRun w w' lines) :
    w.answers lines = w'.answers lines ∧
      (w.run (lines.map .execute)).Alike (w'.run (lines.map .execute)) := by
  induction lines generalizing w w' with
  | nil => exact ⟨rfl, h⟩
  | cons line lines ih =>
    obtain ⟨hanswer, halike⟩ := h.execute hlines.1
    obtain ⟨hanswers, hrun⟩ := ih halike hlines.2
    exact ⟨congrArg₂ List.cons hanswer hanswers, hrun⟩

/-- **A cell that is not stored is like an empty one.** Workbenches that differ in nothing else have
the same exact sums; a line that is no merge, or merges a dataset that stores the same in both,
gives the same answer and leaves them alike; and so does every run of such lines. -/
theorem Alike.indistinguishable (h : w.Alike w') :
    (∀ scope, w.groundTruth scope = w'.groundTruth scope) ∧
    (∀ line, Comparable w w' line →
      (w.execute line).2 = (w'.execute line).2 ∧ (w.execute line).1.Alike (w'.execute line).1) ∧
    ∀ lines, ComparableRun w w' lines →
      w.answers lines = w'.answers lines ∧
      (w.run (lines.map .execute)).Alike (w'.run (lines.map .execute)) ∧
      ∀ scope, (w.run (lines.map .execute)).groundTruth scope =
        (w'.run (lines.map .execute)).groundTruth scope := by
  refine ⟨h.groundTruth_eq, fun line => h.execute, ?_⟩
  intro lines hlines
  obtain ⟨hanswers, hrun⟩ := h.run hlines
  exact ⟨hanswers, hrun, hrun.groundTruth_eq⟩

/-- A row that stores an empty cell, and one that does not. -/
theorem Alike.indistinguishable_oneCell :
    let w (r : Row) : Workbench :=
      ⟨[⟨"d", [.profiled .first ⟨"t", ["k", "x"], [r]⟩], "t"⟩], some "d", ⟨.first, 50⟩⟩
    let v := w (.ofList [("k", .text "a"), ("x", .empty)])
    let v' := w (.ofList [("k", .text "a")])
    v.Alike v' ∧ (∀ scope, v.groundTruth scope = v'.groundTruth scope) ∧
    (∀ line, Comparable v v' line →
      (v.execute line).2 = (v'.execute line).2 ∧ (v.execute line).1.Alike (v'.execute line).1) ∧
    ∀ lines, ComparableRun v v' lines →
      v.answers lines = v'.answers lines ∧
      (v.run (lines.map .execute)).Alike (v'.run (lines.map .execute)) ∧
      ∀ scope, (v.run (lines.map .execute)).groundTruth scope =
        (v'.run (lines.map .execute)).groundTruth scope := by
  intro w v v'
  have hrow : Row.Alike (.ofList [("k", .text "a"), ("x", .empty)])
      (.ofList [("k", .text "a")]) := by
    intro name
    show ((Row.empty.insert "k" (.text "a")).insert "x" .empty).cell name =
      (Row.empty.insert "k" (.text "a")).cell name
    rw [Row.cell_insert]
    split
    · rename_i hname
      rw [hname]
      rfl
    · rfl
  have hconfined (r : Row) (hr : ∀ n ∈ r.names, n ∈ ["k", "x"]) :
      (w r).AllSheets Sheet.Confined := by
    intro d hd s hs r' hr' n hn
    rw [List.mem_singleton.1 hd, List.mem_singleton] at hs
    rw [hs] at hr' ⊢
    rw [List.mem_singleton.1 hr'] at hn
    exact hr n hn
  have hrows := List.Forall₂.cons hrow .nil
  have halike : v.Alike v' := by
    refine ⟨rfl, rfl, .cons ⟨rfl, rfl, .cons ?_ .nil⟩ .nil, hconfined _ ?_, hconfined _ ?_⟩
    · exact ⟨rfl, rfl, (summaries_congr hrows _ _).symm, hrows⟩
    · decide
    · decide
  exact ⟨halike, halike.indistinguishable⟩

end Tabular.Workbench
