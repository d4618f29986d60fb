import Mathlib.Data.List.Forall2
import Tabular.Workbench
import Tabular.Proofs.Console.Outcome
import Tabular.Proofs.Sheet

/-!
# What an executed line changes

A console line changes nothing, or the active pointer, or the content of the active sheet.

* `Focus` is the place of the active sheet in a workbench: the datasets before and after its
  dataset, the sheets before and after it.
* `Focus.commit_eq`: content is committed at that place and nowhere else.
* `Ends` and `execute_ends`: the five ways in which a line can end, with the whole result of
  each; `execute_replace` and `execute_switch` for a command whose outcome is known.
* `Effect` lists what a command that succeeds does to the workbench, and `SameElsewhere` says
  that all but the content of the active sheet stays where and as it was.
* `execute_frame`: **a line that is not a command or fails changes nothing, and one that
  succeeds changes one thing.**
-/

namespace Tabular.Workbench

variable {w : Workbench}

/-! ## The place of the active sheet -/

/-- The active dataset and its active sheet, with what stands around them. Both are the first
of their name. -/
structure Focus (w : Workbench) where
  before : List Dataset
  dataset : Dataset
  after : List Dataset
  above : List Sheet
  sheet : Sheet
  below : List Sheet
  datasets_eq : w.datasets = before ++ dataset :: after
  active_eq : w.active = some dataset.name
  dataset_first : ∀ d ∈ before, d.name ≠ dataset.name
  sheets_eq : dataset.sheets = above ++ sheet :: below
  sheet_name : sheet.name = dataset.activeSheet
  sheet_first : ∀ s ∈ above, s.name ≠ dataset.activeSheet

namespace Focus

/-- The workbench with new content in the sheet at this place. -/
def withContent (f : w.Focus) (content : Content) : Workbench :=
  { w with
    datasets := f.before ++
      { f.dataset with sheets := f.above ++ f.sheet.withContent content :: f.below } :: f.after }

theorem active?_eq (f : w.Focus) : f.dataset.active? = some f.sheet := by
  unfold Dataset.active?
  rw [f.sheets_eq]
  exact find?_append_cons (fun s hs => by simpa using f.sheet_first s hs) (by simp [f.sheet_name])

theorem activeDataset?_eq (f : w.Focus) : w.activeDataset? = some f.dataset := by
  unfold activeDataset? find?
  rw [f.active_eq, f.datasets_eq, Option.bind_some]
  exact find?_append_cons (fun d hd => by simpa using f.dataset_first d hd) (by simp)

theorem activeSheet?_eq (f : w.Focus) : w.activeSheet? = some f.sheet := by
  unfold activeSheet?
  rw [f.activeDataset?_eq, Option.bind_some, f.active?_eq]

/-- Content is committed at the place of the active sheet. -/
theorem commit_eq (f : w.Focus) (content : Content) : w.commit content = f.withContent content := by
  unfold commit withContent
  rw [f.datasets_eq, mapFirst_split _ (fun d hd => ?_) (by simp [f.active_eq])]
  · simp only [Dataset.mapActive]
    rw [f.sheets_eq, mapFirst_split _ (fun s hs => by simpa using f.sheet_first s hs)
      (by simp [f.sheet_name])]
  · simpa [f.active_eq] using f.dataset_first d hd

end Focus

/-- The active sheet has a place. -/
theorem exists_focus {s : Sheet} (h : w.activeSheet? = some s) : ∃ f : w.Focus, f.sheet = s := by
  obtain ⟨d, hd, hs⟩ := Option.bind_eq_some_iff.1 h
  obtain ⟨name, hname, hd⟩ := Option.bind_eq_some_iff.1 hd
  obtain ⟨hdn, before, after, hds, hbefore⟩ := find?_split hd
  obtain ⟨hsn, above, below, hss, habove⟩ := find?_split hs
  simp only [beq_iff_eq] at hdn hsn
  subst hdn
  exact ⟨⟨before, d, after, above, s, below, hds, hname, by simpa using hbefore, hss, hsn,
    by simpa using habove⟩, rfl⟩

/-- The place of the active sheet stays the same when its content is new. -/
def Focus.edited (f : w.Focus) (content : Content) : (f.withContent content).Focus where
  before := f.before
  dataset := { f.dataset with sheets := f.above ++ f.sheet.withContent content :: f.below }
  after := f.after
  above := f.above
  sheet := f.sheet.withContent content
  below := f.below
  datasets_eq := rfl
  active_eq := f.active_eq
  dataset_first := f.dataset_first
  sheets_eq := rfl
  sheet_name := f.sheet_name
  sheet_first := f.sheet_first

/-- The active sheet after new content was committed to it. -/
theorem activeSheet?_commit {s : Sheet} (content : Content) (h : w.activeSheet? = some s) :
    (w.commit content).activeSheet? = some (s.withContent content) := by
  obtain ⟨f, rfl⟩ := exists_focus h
  rw [f.commit_eq]
  exact (f.edited content).activeSheet?_eq

/-- Commands read the active sheet. -/
theorem context_sheet_eq_ok {s : Sheet} : w.context.sheet = .ok s ↔ w.activeSheet? = some s := by
  rw [Context.sheet_eq_ok, activeSheet?, Option.bind_eq_some_iff]
  rfl

/-! ## The ways in which a line can end -/

/-- The first log entry of a command. -/
def echo (c : Command) : LogEntry := ⟨.command, ". " ++ c.line⟩

/-- **How an executed line ends**, with the workbench after it and the whole result. -/
inductive Ends (w : Workbench) (line : String) : Workbench × Executed → Prop where
  /-- It is not a command. -/
  | ignored (hc : Command.parse? line = none) : Ends w line (w, ⟨false, [], false, w.active⟩)
  /-- The command fails. -/
  | refused {c : Command} {e : BenchError} (hc : Command.parse? line = some c)
      (hr : c.run w.context = .error e) :
      Ends w line (w, ⟨true, [echo c, ⟨.error, e.message⟩], false, w.active⟩)
  /-- The command gives a text. -/
  | answered {c : Command} {s : String} (hc : Command.parse? line = some c)
      (hk : c.keyword ∈ [.describe, .summarize, .list, .count, .frameDir])
      (hr : c.run w.context = .ok (.text s)) :
      Ends w line (w, ⟨true, [echo c, ⟨.output, s⟩], false, w.active⟩)
  /-- The content that the command gives is committed to the active sheet. -/
  | committed {c : Command} {s : String} {columns : List String} {rows : List Row} (f : w.Focus)
      (hc : Command.parse? line = some c) (hk : c.keyword ∈ [.generate, .drop, .merge])
      (hr : c.run w.context = .ok (.replace s (.profiled w.options.inference columns rows))) :
      Ends w line (f.withContent (.profiled w.options.inference columns rows),
        ⟨true, [echo c, ⟨.output, s⟩], true, w.active⟩)
  /-- The dataset that the command names becomes active. -/
  | switched {c : Command} {s : String} {d : Dataset} (hc : Command.parse? line = some c)
      (hk : c.keyword = .frameChange) (hd : d ∈ w.datasets)
      (hr : c.run w.context = .ok (.switch s d.name)) :
      Ends w line ({ w with active := some d.name },
        ⟨true, [echo c, ⟨.output, s⟩], false, some d.name⟩)

theorem execute_ends (w : Workbench) (line : String) : Ends w line (w.execute line) := by
  unfold execute
  cases hc : Command.parse? line with
  | none =>
    rw [interpret_ignored hc]
    exact .ignored hc
  | some c =>
    rw [interpret_command hc]
    cases hr : c.run w.context with
    | error e => exact .refused hc hr
    | ok o =>
      rcases Command.run_cases hr with ⟨hk, s, rfl⟩ | ⟨hk, s, sheet, columns, rows, hs, rfl⟩ |
        ⟨hk, s, d, hd, rfl⟩
      · exact .answered hc hk hr
      · -- the sheet that the command read is the one that the content is committed to
        rw [context_sheet_eq_ok] at hs
        obtain ⟨f, -⟩ := exists_focus hs
        rw [hs]
        dsimp only [Interpreted.of]
        rw [f.commit_eq]
        exact .committed f hc hk hr
      · exact .switched hc hk hd hr

/-- Content that a command gives is committed. -/
theorem execute_replace {line s : String} {c : Command} {content : Content} {sheet : Sheet}
    (hs : w.activeSheet? = some sheet) (hc : Command.parse? line = some c)
    (hr : c.run w.context = .ok (.replace s content)) :
    (w.execute line).1 = w.commit content ∧ (w.execute line).2.dataChanged = true := by
  rw [execute, interpret_command hc, hr, hs]
  exact ⟨rfl, rfl⟩

/-- A command that fails leaves an error in the log and nothing else. -/
theorem execute_refused {line : String} {c : Command} {e : BenchError}
    (hc : Command.parse? line = some c) (hr : c.run w.context = .error e) :
    w.execute line = (w, ⟨true, [echo c, ⟨.error, e.message⟩], false, w.active⟩) := by
  rw [execute, interpret_command hc, hr]
  rfl

/-- A command that gives a text leaves it in the log and nothing else. -/
theorem execute_answered {line s : String} {c : Command} (hc : Command.parse? line = some c)
    (hr : c.run w.context = .ok (.text s)) :
    w.execute line = (w, ⟨true, [echo c, ⟨.output, s⟩], false, w.active⟩) := by
  rw [execute, interpret_command hc, hr]
  rfl

/-- The dataset that a command names becomes active, and the log says so. -/
theorem execute_switched {line s name : String} {c : Command}
    (hc : Command.parse? line = some c) (hr : c.run w.context = .ok (.switch s name)) :
    w.execute line =
      ({ w with active := some name }, ⟨true, [echo c, ⟨.output, s⟩], false, some name⟩) := by
  rw [execute, interpret_command hc, hr]
  rfl

/-- The dataset that a command names becomes active. -/
theorem execute_switch {line s name : String} {c : Command}
    (hc : Command.parse? line = some c) (hr : c.run w.context = .ok (.switch s name)) :
    (w.execute line).1 = { w with active := some name } :=
  congrArg Prod.fst (execute_switched hc hr)

/-! ## The frame of an execution -/

/-- What a command that succeeds does to a workbench, by its keyword, and whether it reports
that data has changed. -/
inductive Effect (w : Workbench) : Keyword → Workbench → Bool → Prop where
  /-- Nothing. -/
  | none {k : Keyword} (hk : k ∈ [.describe, .summarize, .list, .count, .frameDir]) :
      Effect w k w false
  /-- The active pointer names a loaded dataset. -/
  | switch {name : String} (hn : name ∈ w.names) :
      Effect w .frameChange { w with active := some name } false
  /-- The sheet that the command read as active has new content. -/
  | content {k : Keyword} (f : w.Focus) (read : w.context.sheet = .ok f.sheet) (content : Content)
      (hk : k ∈ [.generate, .drop, .merge]) : Effect w k (f.withContent content) true

/-- The same sheet, or the active sheet of the active dataset with other content. -/
def SameSheet (w : Workbench) (d : Dataset) (s s' : Sheet) : Prop :=
  s' = s ∨ (w.activeDataset? = some d ∧ d.active? = some s ∧ s'.name = s.name)

/-- The same datasets and sheets in the same order under the same names, with the same sheet
pointers; only the active sheet may have other content. -/
structure SameElsewhere (w w' : Workbench) : Prop where
  options : w'.options = w.options
  datasets : List.Forall₂
    (fun d d' => d'.name = d.name ∧ d'.activeSheet = d.activeSheet ∧
      List.Forall₂ (SameSheet w d) d.sheets d'.sheets)
    w.datasets w'.datasets

theorem SameElsewhere.of_datasets_eq {w' : Workbench} (ho : w'.options = w.options)
    (hd : w'.datasets = w.datasets) : SameElsewhere w w' := by
  refine ⟨ho, ?_⟩
  rw [hd]
  exact List.forall₂_same.2 fun d _ => ⟨rfl, rfl, List.forall₂_same.2 fun s _ => .inl rfl⟩

/-- New content leaves everything around its place as it was. -/
theorem Focus.sameElsewhere (f : w.Focus) (content : Content) :
    SameElsewhere w (f.withContent content) := by
  have same (d : Dataset) : d.name = d.name ∧ d.activeSheet = d.activeSheet ∧
      List.Forall₂ (SameSheet w d) d.sheets d.sheets :=
    ⟨rfl, rfl, List.forall₂_same.2 fun s _ => .inl rfl⟩
  refine ⟨rfl, ?_⟩
  rw [f.datasets_eq]
  refine List.rel_append (List.forall₂_same.2 fun d _ => same d) (.cons ⟨rfl, rfl, ?_⟩
    (List.forall₂_same.2 fun d _ => same d))
  rw [f.sheets_eq]
  exact List.rel_append (List.forall₂_same.2 fun s _ => .inl rfl)
    (.cons (.inr ⟨f.activeDataset?_eq, f.active?_eq, rfl⟩)
      (List.forall₂_same.2 fun s _ => .inl rfl))

theorem Effect.sameElsewhere {k : Keyword} {w' : Workbench} {changed : Bool}
    (h : Effect w k w' changed) : SameElsewhere w w' := by
  cases h with
  | none => exact .of_datasets_eq rfl rfl
  | switch => exact .of_datasets_eq rfl rfl
  | content f _ content => exact f.sameElsewhere content

/-- **A line that is not a command or fails changes nothing, and one that succeeds changes one
thing.** A command is echoed, and its echo is followed by one entry, an output or an error. -/
theorem execute_frame (w : Workbench) (line : String) :
    let w' := (w.execute line).1
    let r := (w.execute line).2
    SameElsewhere w w' ∧
    (r.handled = false → r.logs = [] ∧ r.dataChanged = false ∧ w' = w) ∧
    (r.handled = true → ∃ c entry, Command.parse? line = some c ∧
      r.logs = [⟨.command, ". " ++ trimmed line⟩, entry] ∧
      (entry.kind = .error ∧ r.dataChanged = false ∧ w' = w ∨
        entry.kind = .output ∧ Effect w c.keyword w' r.dataChanged)) := by
  have hends := execute_ends w line
  have hecho {c : Command} (hc : Command.parse? line = some c) :
      echo c = ⟨.command, ". " ++ trimmed line⟩ := by
    rw [echo, Command.line_of_parse? hc]
  generalize w.execute line = x at hends ⊢
  cases hends with
  | ignored => exact ⟨.of_datasets_eq rfl rfl, fun _ => ⟨rfl, rfl, rfl⟩, nofun⟩
  | refused hc =>
    rw [hecho hc]
    exact ⟨.of_datasets_eq rfl rfl, nofun, fun _ => ⟨_, _, hc, rfl, .inl ⟨rfl, rfl, rfl⟩⟩⟩
  | @answered c s hc hk =>
    rw [hecho hc]
    have he : Effect w c.keyword w false := .none hk
    exact ⟨he.sameElsewhere, nofun, fun _ => ⟨c, _, hc, rfl, .inr ⟨rfl, he⟩⟩⟩
  | @committed c s columns rows f hc hk =>
    rw [hecho hc]
    have he := Effect.content f (context_sheet_eq_ok.2 f.activeSheet?_eq)
      (.profiled w.options.inference columns rows) hk
    exact ⟨he.sameElsewhere, nofun, fun _ => ⟨c, _, hc, rfl, .inr ⟨rfl, he⟩⟩⟩
  | @switched c s d hc hk hd =>
    rw [hecho hc]
    have he : Effect w c.keyword { w with active := some d.name } false :=
      hk ▸ .switch (List.mem_map_of_mem hd)
    exact ⟨he.sameElsewhere, nofun, fun _ => ⟨c, _, hc, rfl, .inr ⟨rfl, he⟩⟩⟩

end Tabular.Workbench
