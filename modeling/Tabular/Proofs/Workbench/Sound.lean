import Mathlib.Data.List.Basic
import Tabular.Workbench.Run
import Tabular.Proofs.Console.MissingSheet
import Tabular.Proofs.Header
import Tabular.Proofs.Workbench.Frame
import Tabular.Proofs.Workbench.Operation

/-!
# Soundness of the workbench

Datasets and sheets are pointed to by name. A sound workbench has no dangling pointer.

* `Sound`: the names of the datasets are distinct, one dataset is active exactly when there
  are any, and every dataset has its active sheet.
* `load_sound`, `remove_sound`, `setActiveSheet_sound` and `execute_sound`: every operation
  keeps this, and `after_sound` collects them.
* `run_sound`: **every run from the empty workbench is sound**, so no line, exact sum or
  question ever misses a sheet.
-/

namespace Tabular

/-- The active sheet of a dataset is one of its sheets. -/
def Dataset.Pointed (d : Dataset) : Prop := ∃ s ∈ d.sheets, s.name = d.activeSheet

theorem Dataset.Pointed.active? {d : Dataset} (h : d.Pointed) : ∃ s, d.active? = some s := by
  obtain ⟨s, hs, hn⟩ := h
  exact Option.isSome_iff_exists.1 (List.find?_isSome.2 ⟨s, hs, by simpa using hn⟩)

namespace Workbench

variable {w : Workbench}

/-- **The workbench has no dangling pointer.** -/
structure Sound (w : Workbench) : Prop where
  names_nodup : w.names.Nodup
  active_eq_none : w.active = none ↔ w.datasets = []
  active_mem : ∀ name, w.active = some name → name ∈ w.names
  pointed : ∀ d ∈ w.datasets, d.Pointed

theorem empty_sound (options : Options) : (empty options).Sound :=
  ⟨.nil, by simp [empty], nofun, nofun⟩

/-! ## Every operation keeps soundness -/

theorem load_sound {name : String} {tables : List Table} {w' : Workbench} {d : Dataset}
    (h : w.Sound) (hl : w.load name tables = .ok (w', d)) : w'.Sound := by
  obtain ⟨first, rest, rfl, hd, rfl⟩ := load_eq_ok.1 hl
  have hfree : d.name ∉ w.names := by
    rw [hd]
    exact freeName_not_mem w.names name
  refine ⟨?_, ?_, ?_, ?_⟩
  · rw [names_append]
    refine List.nodup_append.2 ⟨h.names_nodup, by simp, ?_⟩
    rintro a ha b hb rfl
    rw [List.mem_singleton.1 hb] at ha
    exact hfree ha
  · simp
  · intro n hn
    rw [names_append, List.mem_append, List.mem_singleton]
    -- the active dataset stays active; the new one becomes active only if there is none
    cases ha : w.active with
    | none =>
      simp only [ha, Option.none_or, Option.some.injEq] at hn
      exact .inr hn.symm
    | some a =>
      simp only [ha, Option.some_or, Option.some.injEq] at hn
      exact .inl (h.active_mem n (hn ▸ ha))
  · intro x hx
    rcases List.mem_append.1 hx with hx | hx
    · exact h.pointed x hx
    · rw [List.mem_singleton.1 hx, hd]
      exact ⟨_, List.mem_cons_self, rfl⟩

theorem remove_sound {name : String} {w' : Workbench} (h : w.Sound)
    (hr : w.remove name = .ok w') : w'.Sound := by
  obtain ⟨hmem, rfl⟩ := remove_eq_ok.1 hr
  -- a dataset that is active under another name is still there
  have hleft : ∀ a, w.active = some a → w.active ≠ some name →
      a ∈ names { w with datasets := w.datasets.eraseP (·.name == name) } := by
    intro a ha hne
    have han : a ≠ name := by
      rintro rfl
      exact hne ha
    rw [names_eraseP]
    exact (List.mem_erase_of_ne han).2 (h.active_mem a ha)
  refine ⟨?_, ?_, ?_, ?_⟩
  · rw [names_eraseP]
    exact h.names_nodup.erase name
  · dsimp only
    split
    · simp
    · rename_i hne
      obtain ⟨d, hd, -⟩ := List.mem_map.1 hmem
      obtain ⟨a, ha⟩ := Option.ne_none_iff_exists'.1
        (mt h.active_eq_none.1 (List.ne_nil_of_mem hd))
      simp only [ha, reduceCtorEq, false_iff]
      intro hnil
      simpa [names, hnil] using hleft a ha hne
  · intro n hn
    dsimp only at hn
    split at hn
    · obtain ⟨d, hd, rfl⟩ := Option.map_eq_some_iff.1 hn
      exact List.mem_map_of_mem (List.mem_of_head? hd)
    · exact hleft n hn (by assumption)
  · intro d hd
    exact h.pointed d (List.mem_of_mem_eraseP hd)

theorem setActiveSheet_sound {name sheet : String} {w' : Workbench} (h : w.Sound)
    (hs : w.setActiveSheet name sheet = .ok w') : w'.Sound := by
  obtain ⟨before, d, after, hds, -, -, hsheet, rfl⟩ := setActiveSheet_eq_ok.1 hs
  have hnames := names_replace { d with activeSheet := sheet } hds rfl
  refine ⟨?_, ?_, ?_, forall_mem_replace (hds ▸ h.pointed) hsheet⟩
  · rw [hnames]
    exact h.names_nodup
  · rw [h.active_eq_none, hds]
    simp
  · rw [hnames]
    exact h.active_mem

theorem Focus.names_withContent (f : w.Focus) (content : Content) :
    (f.withContent content).names = w.names :=
  names_replace _ f.datasets_eq rfl

theorem Focus.withContent_sound (f : w.Focus) (content : Content) (h : w.Sound) :
    (f.withContent content).Sound := by
  refine ⟨?_, ?_, ?_, ?_⟩
  · rw [f.names_withContent]
    exact h.names_nodup
  · rw [withContent, h.active_eq_none, f.datasets_eq]
    simp
  · rw [f.names_withContent]
    exact h.active_mem
  · exact forall_mem_replace (f.datasets_eq ▸ h.pointed)
      ⟨f.sheet.withContent content, by simp, f.sheet_name⟩

theorem execute_sound (h : w.Sound) (line : String) : (w.execute line).1.Sound := by
  have hends := execute_ends w line
  generalize w.execute line = x at hends ⊢
  cases hends with
  | ignored | refused | answered => exact h
  | committed f => exact f.withContent_sound _ h
  | switched _ _ hd =>
    refine ⟨h.names_nodup, ?_, ?_, h.pointed⟩
    · simp [List.ne_nil_of_mem hd]
    · rintro _ ⟨⟩
      exact List.mem_map_of_mem hd

theorem clear_sound (w : Workbench) : w.clear.Sound :=
  ⟨.nil, by simp [clear], nofun, nofun⟩

/-- **Every step keeps soundness.** -/
theorem after_sound (w : Workbench) (s : Step) (h : w.Sound) : (w.after s).Sound :=
  after_keeps h (fun _ => load_sound h) (remove_sound h) w.clear_sound (setActiveSheet_sound h)
    (execute_sound h)

/-! ## What soundness gives -/

namespace Sound

theorem activeDataset_mem {d : Dataset} (hd : w.activeDataset? = some d) : d ∈ w.datasets := by
  obtain ⟨name, -, hd⟩ := Option.bind_eq_some_iff.1 hd
  exact List.mem_of_find?_eq_some hd

theorem whole (h : w.Sound) : w.context.Whole := by
  rintro d (hd | hd)
  · exact (h.pointed d (activeDataset_mem hd)).active?
  · exact (h.pointed d hd).active?

/-- No log entry complains about a missing sheet. -/
theorem log_ne (h : w.Sound) {line : String} {entry : LogEntry}
    (he : entry ∈ (w.execute line).2.logs) (hk : entry.kind = .error) (name : String) :
    entry.content ≠ (BenchError.sheetNotFound name).message := by
  have hends := execute_ends w line
  generalize w.execute line = x at hends he
  intro hm
  cases hends with
  | ignored => cases he
  | @refused c e hc hr =>
    -- the wording gives the cause away, and no command fails for this cause
    rcases List.mem_pair.1 he with rfl | rfl
    · cases hk
    · obtain ⟨n, rfl⟩ := BenchError.eq_sheetNotFound_of_message hm
      exact c.run_findsSheet h.whole n hr
  | answered | committed | switched =>
    -- an echo and an output are no errors
    rcases List.mem_pair.1 he with rfl | rfl <;> cases hk

theorem findsSheet_activeDataset : FindsSheet w.activeDataset := by
  unfold activeDataset
  split
  · exact .ok _
  · exact .error (by simp)

theorem activeDataset_pointed (h : w.Sound) {d : Dataset} (hd : w.activeDataset = .ok d) :
    d.Pointed := by
  unfold activeDataset at hd
  split at hd
  · cases hd
    exact h.pointed d (activeDataset_mem (by assumption))
  · cases hd

theorem findsSheet_groundTruth (h : w.Sound) (scope : Scope) :
    FindsSheet (w.groundTruth scope) := by
  refine findsSheet_activeDataset.bind fun d hd => ?_
  refine (findsSheet_sheetOf (h.activeDataset_pointed hd).active?).bind fun s _ => ?_
  have hrendered : FindsSheet ((Tabular.groundTruth s.rows s.summaries scope
      w.options.ceiling).mapError .render) := .mapError _ (by simp)
  cases scope with
  | full => exact hrendered
  | custom columns => exact (findsSheet_checkColumns s columns).bind fun _ _ => hrendered

theorem findsSheet_reasoningRequest (h : w.Sound) (question : String) (report : Option Scope)
    (sampleRows : Nat) : FindsSheet (w.reasoningRequest question report sampleRows) := by
  refine findsSheet_activeDataset.bind fun d hd => ?_
  have hs := findsSheet_sheetOf (h.activeDataset_pointed hd).active?
  cases report with
  | none => exact (FindsSheet.ok _).bind fun t _ => hs.bind fun s _ => .pure _
  | some scope =>
    exact ((h.findsSheet_groundTruth scope).map some).bind fun t _ => hs.bind fun s _ => .pure _

end Sound

/-- New content is only ever given when there is an active sheet. -/
theorem activeSheet?_of_content {line : String} {content : Content}
    (h : (interpret w.context line).content = some content) : ∃ s, w.activeSheet? = some s := by
  cases hc : Command.parse? line with
  | none =>
    rw [interpret_ignored hc] at h
    cases h
  | some c =>
    rw [interpret_command hc] at h
    cases hr : c.run w.context with
    | error e => simp [hr, Interpreted.of] at h
    | ok o =>
      rcases Command.run_cases hr with ⟨-, s, rfl⟩ | ⟨-, s, sheet, columns, rows, hs, -⟩ |
        ⟨-, s, d, -, rfl⟩
      · simp [hr, Interpreted.of] at h
      · exact ⟨sheet, context_sheet_eq_ok.1 hs⟩
      · simp [hr, Interpreted.of] at h

/-- **Every run from the empty workbench is sound.** So no line is ever answered with a missing
sheet, no exact sum or question is refused for one, and content is never given without an
active sheet to take it. -/
theorem run_sound (options : Options) (steps : List Step) :
    let w := (empty options).run steps
    w.Sound ∧
    (∀ line, ∀ entry ∈ (w.execute line).2.logs, entry.kind = .error →
      ∀ name, entry.content ≠ (BenchError.sheetNotFound name).message) ∧
    (∀ scope name, w.groundTruth scope ≠ .error (.sheetNotFound name)) ∧
    (∀ question report sampleRows name,
      w.reasoningRequest question report sampleRows ≠ .error (.sheetNotFound name)) ∧
    (∀ line content, (interpret w.context line).content = some content →
      ∃ s, w.activeSheet? = some s) := by
  have h : ((empty options).run steps).Sound :=
    run_induction after_sound (empty_sound options) steps
  exact ⟨h, fun line entry he hk => h.log_ne he hk, h.findsSheet_groundTruth,
    h.findsSheet_reasoningRequest, fun line content => activeSheet?_of_content⟩

end Workbench

end Tabular
