import Tabular.Workbench
import Tabular.Proofs.Sheet

/-!
# What the operations give

When an operation on a workbench is not refused, and with what. The rest of the development
reads these equivalences and opens no operation.

* `load_eq_ok`, `remove_eq_ok` and `setActiveSheet_eq_ok`: the workbench after the operation.
* `names_append`, `names_eraseP` and `names_replace`: what becomes of the names of the datasets.
-/

namespace Tabular.Workbench

variable {w w' : Workbench} {name sheet : String}

theorem load_eq_ok {tables : List Table} {d : Dataset} :
    w.load name tables = .ok (w', d) ↔ ∃ first rest, tables = first :: rest ∧
      d = ⟨freeName w.names name, tables.map (Sheet.profiled w.options.inference), first.name⟩ ∧
      w' = { w with datasets := w.datasets ++ [d], active := w.active.or (some d.name) } := by
  unfold load
  constructor
  · intro h
    cases tables with
    | nil => cases h
    | cons first rest =>
      cases h
      exact ⟨first, rest, rfl, rfl, rfl⟩
  · rintro ⟨first, rest, rfl, rfl, rfl⟩
    rfl

theorem remove_eq_ok :
    w.remove name = .ok w' ↔ name ∈ w.names ∧
      w' = { w with
        datasets := w.datasets.eraseP (·.name == name)
        active :=
          if w.active = some name then (w.datasets.eraseP (·.name == name)).head?.map (·.name)
          else w.active } := by
  unfold remove
  split
  · rename_i hmem
    constructor
    · rintro ⟨⟩
      exact ⟨hmem, rfl⟩
    · rintro ⟨-, rfl⟩
      rfl
  · rename_i hmem
    exact ⟨nofun, fun h => absurd h.1 hmem⟩

/-- The sheet pointer is set in the first dataset of the name. -/
theorem setActiveSheet_eq_ok :
    w.setActiveSheet name sheet = .ok w' ↔ ∃ before d after,
      w.datasets = before ++ d :: after ∧ d.name = name ∧ (∀ x ∈ before, x.name ≠ name) ∧
      (∃ s ∈ d.sheets, s.name = sheet) ∧
      w' = { w with datasets := before ++ { d with activeSheet := sheet } :: after } := by
  unfold setActiveSheet find?
  constructor
  · intro h
    split at h
    · cases h
    rename_i d hd
    split at h
    · rename_i hs
      cases h
      obtain ⟨hn, before, after, hds, hb⟩ := find?_split hd
      refine ⟨before, d, after, hds, by simpa using hn, by simpa using hb, by simpa using hs, ?_⟩
      rw [hds, mapFirst_split _ hb hn]
    · cases h
  · rintro ⟨before, d, after, hds, hn, hb, hs, rfl⟩
    have hb : ∀ x ∈ before, (x.name == name) = false := by simpa using hb
    rw [hds, find?_append_cons hb (by simpa using hn)]
    dsimp only
    rw [if_pos (by simpa using hs), mapFirst_split _ hb (by simpa using hn)]

/-! ## Names -/

theorem names_append {d : Dataset} {active : Option String} :
    names { w with datasets := w.datasets ++ [d], active } = w.names ++ [d.name] := by
  simp [names]

theorem names_eraseP {active : Option String} :
    names { w with datasets := w.datasets.eraseP (·.name == name), active } =
      w.names.erase name := by
  simp only [names]
  rw [List.erase_eq_eraseP', List.eraseP_map]
  rfl

theorem names_replace {before after : List Dataset} {d : Dataset} (d' : Dataset)
    (hds : w.datasets = before ++ d :: after) (hd : d'.name = d.name) :
    names { w with datasets := before ++ d' :: after } = w.names := by
  simp [names, hds, hd]

end Tabular.Workbench
