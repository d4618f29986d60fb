import Tabular.Workbench.Run
import Tabular.Proofs.Workbench.Frame
import Tabular.Proofs.Workbench.Operation

/-!
# What holds of every sheet

A sheet of a workbench was profiled when it was loaded, or got new content from a command, or
was there before. The options never change.

* `AllSheets` says that every sheet of every dataset has a property.
* `load_allSheets`, `remove_allSheets`, `setActiveSheet_allSheets` and `execute_allSheets`: what
  is to be shown so that an operation keeps it.
* `after_options`: every step keeps the options, and `after_allSheets` collects the operations.
-/

namespace Tabular.Workbench

variable {w w' : Workbench} {P : Sheet → Prop}

/-- Every sheet of every dataset has a property. -/
def AllSheets (P : Sheet → Prop) (w : Workbench) : Prop := ∀ d ∈ w.datasets, ∀ s ∈ d.sheets, P s

theorem empty_allSheets (options : Options) : (empty options).AllSheets P :=
  fun d hd => by cases hd

theorem AllSheets.activeSheet {s : Sheet} (h : w.AllSheets P)
    (hs : w.activeSheet? = some s) : P s := by
  obtain ⟨f, rfl⟩ := exists_focus hs
  refine h f.dataset ?_ f.sheet ?_
  · simp [f.datasets_eq]
  · simp [f.sheets_eq]

theorem load_allSheets {name : String} {tables : List Table} {d : Dataset} (h : w.AllSheets P)
    (ht : ∀ t ∈ tables, P (.profiled w.options.inference t))
    (hl : w.load name tables = .ok (w', d)) : w'.AllSheets P := by
  obtain ⟨first, rest, -, hd, rfl⟩ := load_eq_ok.1 hl
  intro x hx s hs
  rcases List.mem_append.1 hx with hx | hx
  · exact h x hx s hs
  · rw [List.mem_singleton.1 hx, hd] at hs
    obtain ⟨t, htm, rfl⟩ := List.mem_map.1 hs
    exact ht t htm

theorem remove_allSheets {name : String} (h : w.AllSheets P) (hr : w.remove name = .ok w') :
    w'.AllSheets P := by
  obtain ⟨-, rfl⟩ := remove_eq_ok.1 hr
  exact fun d hd => h d (List.mem_of_mem_eraseP hd)

theorem setActiveSheet_allSheets {name sheet : String} (h : w.AllSheets P)
    (hs : w.setActiveSheet name sheet = .ok w') : w'.AllSheets P := by
  obtain ⟨before, d, after, hds, -, -, -, rfl⟩ := setActiveSheet_eq_ok.1 hs
  unfold AllSheets at h
  rw [hds] at h
  exact forall_mem_replace h (h d (List.mem_append_right _ List.mem_cons_self))

theorem Focus.withContent_allSheets (f : w.Focus) {content : Content} (h : w.AllSheets P)
    (hc : P (f.sheet.withContent content)) : (f.withContent content).AllSheets P := by
  unfold AllSheets at h
  rw [f.datasets_eq] at h
  have hd : ∀ s ∈ f.above ++ f.sheet :: f.below, P s :=
    f.sheets_eq ▸ h f.dataset (List.mem_append_right _ List.mem_cons_self)
  exact forall_mem_replace h (forall_mem_replace hd hc)

theorem execute_allSheets {line : String} (h : w.AllSheets P)
    (hc : ∀ (f : w.Focus) (c : Command) (s : String) (columns : List String) (rows : List Row),
      c.run w.context = .ok (.replace s (.profiled w.options.inference columns rows)) →
      P (f.sheet.withContent (.profiled w.options.inference columns rows))) :
    (w.execute line).1.AllSheets P := by
  have hends := execute_ends w line
  generalize w.execute line = x at hends ⊢
  cases hends with
  | ignored | refused | answered | switched => exact h
  | @committed c s columns rows f _ _ hr =>
    exact f.withContent_allSheets h (hc f c s columns rows hr)

/-- Every step keeps the options. -/
theorem after_options (w : Workbench) (s : Step) : (w.after s).options = w.options := by
  refine after_keeps (P := (·.options = w.options)) rfl ?_ ?_ rfl ?_ ?_
  · intro name tables w' d _ hl
    obtain ⟨first, rest, -, -, rfl⟩ := load_eq_ok.1 hl
    rfl
  · intro name w' hr
    obtain ⟨-, rfl⟩ := remove_eq_ok.1 hr
    rfl
  · intro name sheet w' hs
    obtain ⟨before, d, after, -, -, -, -, rfl⟩ := setActiveSheet_eq_ok.1 hs
    rfl
  · intro line
    have hends := execute_ends w line
    generalize w.execute line = x at hends ⊢
    cases hends <;> rfl

theorem after_allSheets {s : Step} (h : w.AllSheets P)
    (ht : ∀ name tables, s = .load name tables →
      ∀ t ∈ tables, P (.profiled w.options.inference t))
    (hc : ∀ (f : w.Focus) (c : Command) (s : String) (columns : List String) (rows : List Row),
      c.run w.context = .ok (.replace s (.profiled w.options.inference columns rows)) →
      P (f.sheet.withContent (.profiled w.options.inference columns rows))) :
    (w.after s).AllSheets P :=
  after_keeps h (fun hs hl => load_allSheets h (ht _ _ hs) hl) (remove_allSheets h) nofun
    (setActiveSheet_allSheets h) fun _ => execute_allSheets h hc

end Tabular.Workbench
