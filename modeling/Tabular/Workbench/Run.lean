import Tabular.Workbench

/-!
# Runs of the workbench

A run is a sequence of steps. A step that is refused belongs to the run too: it leaves the
workbench as it was, so what holds at the start and is kept by every step holds at the end of
every run.

* `Workbench.after` is the workbench after one step, `Workbench.run` the one after a run.
* `Workbench.run_induction` carries a property along a run, and `Workbench.after_keeps` along
  one step, operation by operation.
-/

namespace Tabular.Workbench

/-- What can be done to a workbench. -/
inductive Step where
  | load (name : String) (tables : List Table)
  | remove (name : String)
  | clear
  | setActiveSheet (name sheet : String)
  | execute (line : String)

/-- The workbench after a step. -/
def after (w : Workbench) : Step → Workbench
  | .load name tables => ((w.load name tables).toOption.map Prod.fst).getD w
  | .remove name => (w.remove name).toOption.getD w
  | .clear => w.clear
  | .setActiveSheet name sheet => (w.setActiveSheet name sheet).toOption.getD w
  | .execute line => (w.execute line).1

/-- **The workbench after a run.** -/
def run (w : Workbench) (steps : List Step) : Workbench := steps.foldl after w

@[simp] theorem run_nil (w : Workbench) : w.run [] = w := rfl

@[simp] theorem run_cons (w : Workbench) (s : Step) (steps : List Step) :
    w.run (s :: steps) = (w.after s).run steps := rfl

/-- What every step keeps holds after a run. -/
theorem run_induction {P : Workbench → Prop} (keeps : ∀ w s, P w → P (w.after s))
    {w : Workbench} (start : P w) (steps : List Step) : P (w.run steps) := by
  induction steps generalizing w with
  | nil => exact start
  | cons s steps ih => exact ih (keeps w s start)

/-- What holds of a workbench and after every operation on it that is not refused holds after
a step. -/
theorem after_keeps {P : Workbench → Prop} {w : Workbench} {s : Step} (refused : P w)
    (load : ∀ {name tables w' d}, s = .load name tables → w.load name tables = .ok (w', d) → P w')
    (remove : ∀ {name w'}, w.remove name = .ok w' → P w')
    (clear : P w.clear)
    (setActiveSheet : ∀ {name sheet w'}, w.setActiveSheet name sheet = .ok w' → P w')
    (execute : ∀ line, P (w.execute line).1) : P (w.after s) := by
  cases s with
  | load name tables =>
    show P (((w.load name tables).toOption.map Prod.fst).getD w)
    cases hl : w.load name tables with
    | error e => exact refused
    | ok r => exact load rfl hl
  | remove name =>
    show P ((w.remove name).toOption.getD w)
    cases hr : w.remove name with
    | error e => exact refused
    | ok w' => exact remove hr
  | clear => exact clear
  | setActiveSheet name sheet =>
    show P ((w.setActiveSheet name sheet).toOption.getD w)
    cases hs : w.setActiveSheet name sheet with
    | error e => exact refused
    | ok w' => exact setActiveSheet hs
  | execute line => exact execute line

end Tabular.Workbench
