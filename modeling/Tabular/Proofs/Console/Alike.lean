import Mathlib.Data.Option.Basic
import Tabular.Console.Run
import Tabular.Proofs.Alike
import Tabular.Proofs.Console.Reads
import Tabular.Proofs.Formula.Columns
import Tabular.Proofs.Merge.Alike
import Tabular.Proofs.Sheetwise

/-!
# Commands on sheets that are alike

Commands read the cells of rows, and new rows are built from them cell by cell. So two sheets whose
rows are alike are described in the same words, and edited to sheets whose rows are alike again.

* `Sheet.Agree`: two sheets differ at most in their rows; `Sheet.Alike` are those whose rows are
  alike, and `Context.Alike` says so of all that a command may read.
* `Context.Alike.describe_eq`, `summarizeTable_eq`, `listTable_eq` and `listFrames_eq`: the commands
  that only tell about sheets tell the same.
* `Outcome.Alike`: the same but for the rows of new content. `generateColumn_alike`,
  `dropColumns_alike`, `mergeDataset_alike` and `changeFrame_alike` are the other commands, and
  `Command.run_alike` collects all.
* `interpret_alike`: **a line gives the same log and content that is alike.**
-/

namespace Tabular

/-! ## What is read alike -/

/-- **Sheets that agree but for their rows**, which are related in their order. -/
structure Sheet.Agree (R : Row → Row → Prop) (s t : Sheet) : Prop where
  name : t.name = s.name
  columns : t.columns = s.columns
  summaries : t.summaries = s.summaries
  rows : List.Forall₂ R s.rows t.rows

/-- Sheets whose rows are alike. -/
abbrev Sheet.Alike := Sheet.Agree Row.Alike

/-- Datasets whose sheets are alike. -/
abbrev Dataset.Alike := Dataset.Sheetwise Sheet.Alike

/-- Datasets whose rows store the same. -/
abbrev Dataset.Same := Dataset.Sheetwise (Sheet.Agree Row.Same)

/-- **What a command may read is alike.** -/
structure Context.Alike (ctx ctx' : Context) : Prop where
  active : Option.Rel Dataset.Alike ctx.active ctx'.active
  datasets : List.Forall₂ Dataset.Alike ctx.datasets ctx'.datasets
  options : ctx'.options = ctx.options

namespace Sheet.Agree

variable {R : Row → Row → Prop} {s t : Sheet} {d d' : Dataset}

theorem hasColumn_eq (h : s.Agree R t) : t.hasColumn = s.hasColumn := by
  unfold Sheet.hasColumn
  rw [h.columns]

theorem checkColumns_eq (h : s.Agree R t) (names : List String) :
    checkColumns t names = checkColumns s names := by
  unfold checkColumns
  rw [h.hasColumn_eq]

theorem summary?_eq (h : s.Agree R t) : t.summary? = s.summary? := by
  unfold Sheet.summary?
  rw [h.summaries]

/-- The active sheets of datasets that agree do. -/
theorem active? (h : d.Sheetwise (Sheet.Agree R) d') :
    Option.Rel (Sheet.Agree R) d.active? d'.active? :=
  h.active? fun _ _ hst => hst.name

theorem sheetOf (h : d.Sheetwise (Sheet.Agree R) d') :
    EndsAlike (Sheet.Agree R) (Context.sheetOf d) (Context.sheetOf d') := by
  have hactive := Agree.active? h
  unfold Context.sheetOf
  rw [h.activeSheet]
  generalize d.active? = x, d'.active? = y at hactive ⊢
  cases hactive with
  | none => exact .error _
  | some hst => exact .ok hst

end Sheet.Agree

/-- An observation shows the cells of a row. -/
theorem readsCells_observation (columns : List String) (n : Nat) :
    ReadsCells (observation columns n) := by
  intro r s h
  have hcell : r.cell = s.cell := funext h
  unfold observation
  rw [hcell]

variable {ctx ctx' : Context}

namespace Context.Alike

theorem dataset (h : ctx.Alike ctx') : EndsAlike Dataset.Alike ctx.dataset ctx'.dataset := by
  have hactive := h.active
  unfold Context.dataset
  generalize ctx.active = x, ctx'.active = y at hactive ⊢
  cases hactive with
  | none => exact .error _
  | some hd => exact .ok hd

theorem sheet (h : ctx.Alike ctx') : EndsAlike Sheet.Alike ctx.sheet ctx'.sheet :=
  h.dataset.bind fun _ _ => Sheet.Agree.sheetOf

theorem names_eq (h : ctx.Alike ctx') :
    ctx.datasets.map (·.name) = ctx'.datasets.map (·.name) :=
  map_eq_of_rel h.datasets fun _ _ hd => hd.name.symm

/-- Datasets that are alike are found under a name, or the same names are listed. -/
theorem find (h : ctx.Alike ctx') (name : String) :
    EndsAlike Dataset.Alike (ctx.find name) (ctx'.find name) := by
  have hfind : Option.Rel Dataset.Alike (ctx.datasets.find? (·.name == name))
      (ctx'.datasets.find? (·.name == name)) := by
    refine find?_rel h.datasets ?_
    intro d d' hd
    rw [hd.name]
  unfold Context.find
  rw [h.names_eq]
  generalize ctx.datasets.find? (·.name == name) = x, ctx'.datasets.find? (·.name == name) = y
    at hfind ⊢
  cases hfind with
  | none => exact .error _
  | some hd => exact .ok hd

/-! ## Commands that only tell -/

theorem describe_eq (h : ctx.Alike ctx') (names : List String) :
    describe ctx names = describe ctx' names := by
  refine h.dataset.bind_eq ?_
  intro d d' hd
  refine h.sheet.bind_eq ?_
  intro s t hst
  rw [hst.checkColumns_eq, hst.summaries, hst.name, hd.name, hst.rows.length_eq]

theorem summarizeTable_eq (h : ctx.Alike ctx') (names : List String) :
    summarizeTable ctx names = summarizeTable ctx' names := by
  refine h.sheet.bind_eq ?_
  intro s t hst
  have hrow : summaryRow s.rows = summaryRow t.rows := by
    funext column
    have hcells : s.rows.filterMap (fun r => (r.cell column.name).number?) =
        t.rows.filterMap fun r => (r.cell column.name).number? :=
      filterMap_eq_of_rel hst.rows fun _ _ hr => congrArg Cell.number? (hr column.name)
    unfold summaryRow
    rw [hcells]
  rw [hst.checkColumns_eq, hst.summaries, hst.summary?_eq, hrow]

theorem listTable_eq (h : ctx.Alike ctx') (args : List String) :
    listTable ctx args = listTable ctx' args := by
  refine h.sheet.bind_eq ?_
  intro s t hst
  have hrows (columns : List String) (start stop : Nat) :
      observations columns s.rows start stop = observations columns t.rows start stop := by
    have hlisted := List.forall₂_drop start (List.forall₂_take stop hst.rows)
    refine mapIdx_eq_of_rel hlisted ?_
    intro i r r' hr
    exact readsCells_observation columns _ r r' hr
  simp only [hst.checkColumns_eq, hst.columns, hrows, hst.rows.length_eq]

theorem frameLine_eq {d d' : Dataset} (h : d.Alike d') (active : Option String) :
    frameLine active d = frameLine active d' := by
  have hactive := Sheet.Agree.active? h
  unfold frameLine
  rw [h.name, h.activeSheet]
  generalize d.active? = x, d'.active? = y at hactive ⊢
  cases hactive with
  | none => rfl
  | some hst => simp only [hst.rows.length_eq, hst.columns]

theorem listFrames_eq (h : ctx.Alike ctx') : listFrames ctx = listFrames ctx' := by
  have hname : ctx.active.map (·.name) = ctx'.active.map (·.name) := by
    have hactive := h.active
    generalize ctx.active = x, ctx'.active = y at hactive ⊢
    cases hactive with
    | none => rfl
    | some hd => exact congrArg some hd.name.symm
  have hlines (active : Option String) :
      ctx.datasets.map (frameLine active) = ctx'.datasets.map (frameLine active) :=
    map_eq_of_rel h.datasets fun _ _ hd => frameLine_eq hd active
  have hempty : ctx.datasets.isEmpty = ctx'.datasets.isEmpty := by
    have hdatasets := h.datasets
    generalize ctx.datasets = ds, ctx'.datasets = ds' at hdatasets ⊢
    cases hdatasets <;> rfl
  unfold listFrames
  simp only [hname, hlines, hempty]

end Context.Alike

/-! ## Outcomes -/

/-- **Content that is alike**: the same profile over rows that are alike. -/
structure Content.Alike (c c' : Content) : Prop where
  columns : c'.columns = c.columns
  summaries : c'.summaries = c.summaries
  rows : List.Forall₂ Row.Alike c.rows c'.rows

/-- Rows that are alike have one profile. -/
theorem Content.alike_profiled {rows rows' : List Row} (h : List.Forall₂ Row.Alike rows rows')
    (policy : Inference) (columns : List String) :
    (profiled policy columns rows).Alike (profiled policy columns rows') :=
  ⟨rfl, (summaries_congr h policy columns).symm, h⟩

/-- **Outcomes that are alike**: the same but for the rows of new content. -/
inductive Outcome.Alike : Outcome → Outcome → Prop where
  | text (s : String) : Outcome.Alike (.text s) (.text s)
  | replace (s : String) {c c' : Content} (h : c.Alike c') :
      Outcome.Alike (.replace s c) (.replace s c')
  | switch (s name : String) : Outcome.Alike (.switch s name) (.switch s name)

/-! ## Commands that change something -/

/-- A formula gives new columns that are alike, or is refused for the same cause. -/
theorem endsAlike_generate {rows rows' : List Row} (h : List.Forall₂ Row.Alike rows rows')
    (columns : List String) (name source : String) :
    EndsAlike (List.Forall₂ Row.Alike) (generate rows columns name source)
      (generate rows' columns name source) := by
  refine .bind_right _ ?_
  intro f
  refine .mapM h ?_
  intro r r' hr
  have hvalue : f.evaluate r = f.evaluate r' := f.evaluate_congr fun column _ => hr column
  rw [hvalue]
  refine .bind_right _ ?_
  intro c
  exact .ok (hr.insert name c)

namespace Context.Alike

theorem generateColumn_alike (h : ctx.Alike ctx') (line : String) :
    EndsAlike Outcome.Alike (generateColumn ctx line) (generateColumn ctx' line) := by
  refine h.sheet.bind ?_
  intro s t hst
  refine .bind_right _ ?_
  rintro ⟨name, source⟩
  dsimp only
  rw [hst.hasColumn_eq, hst.columns, h.options]
  split
  · exact .error _
  · have hrows := endsAlike_generate hst.rows s.columns name source
    generalize generate s.rows s.columns name source = x,
      generate t.rows s.columns name source = y at hrows ⊢
    cases hrows with
    | error e => exact .error _
    | @ok rows rows' hrows =>
      have hmissing : rows.countP (fun r => (r.cell name).isMissing) =
          rows'.countP fun r => (r.cell name).isMissing :=
        countP_eq_of_rel hrows fun _ _ hr => congrArg Cell.isMissing (hr name)
      dsimp only
      rw [hmissing]
      exact .ok (.replace _ (Content.alike_profiled hrows _ _))

theorem dropColumns_alike (h : ctx.Alike ctx') (names : List String) :
    EndsAlike Outcome.Alike (dropColumns ctx names) (dropColumns ctx' names) := by
  refine h.sheet.bind ?_
  intro s t hst
  have hkept : List.Forall₂ Row.Alike (s.rows.map (·.keep (!names.contains ·)))
      (t.rows.map (·.keep (!names.contains ·))) := by
    rw [List.forall₂_map_left_iff, List.forall₂_map_right_iff]
    exact hst.rows.imp fun _ _ hr => hr.keep _
  rw [hst.checkColumns_eq, hst.columns, h.options]
  split
  · exact .error _
  · refine .bind_right _ ?_
    intro _
    exact .ok (.replace _ (Content.alike_profiled hkept _ _))

theorem changeFrame_alike (h : ctx.Alike ctx') (parts : List String) :
    EndsAlike Outcome.Alike (changeFrame ctx parts) (changeFrame ctx' parts) := by
  unfold changeFrame
  dsimp only
  split
  · exact .error _
  · refine (h.find _).bind ?_
    intro d d' hd
    rw [hd.name]
    exact .ok (.switch _ _)

/-- A merge reads the cells of the active sheet, and what the rows of the using one store. -/
theorem mergeDataset_alike {c : Command} (h : ctx.Alike ctx') (hk : c.keyword = .merge)
    (hu : ∀ name, c.using? = some name → EndsAlike Dataset.Same (ctx.find name) (ctx'.find name)) :
    EndsAlike Outcome.Alike (mergeDataset ctx c.args) (mergeDataset ctx' c.args) := by
  rcases mergeDataset_cases hk with hrefused | ⟨column, name, hn, hmerge⟩
  · rw [hrefused, hrefused]
    exact .error _
  · rw [hmerge, hmerge]
    refine h.sheet.bind ?_
    intro s t hst
    refine (hu name hn).bind ?_
    intro d d' hd
    refine (Sheet.Agree.sheetOf hd).bind ?_
    intro other other' ho
    rw [hst.columns, ho.columns, h.options]
    refine (merge_alike hst.rows ho.rows _ _ column).bind ?_
    intro m m' hm
    rw [hm.columns, hm.report]
    exact .ok (.replace _ (Content.alike_profiled hm.rows _ _))

end Context.Alike

/-! ## All commands -/

/-- **A command gives outcomes that are alike where it reads what is alike.** The dataset that a
merge reads must store the same in both. -/
theorem Command.run_alike {c : Command} (h : ctx.Alike ctx')
    (hu : ∀ name, c.using? = some name → EndsAlike Dataset.Same (ctx.find name) (ctx'.find name)) :
    EndsAlike Outcome.Alike (c.run ctx) (c.run ctx') := by
  have told {x y : Except BenchError String} (hxy : x = y) :
      EndsAlike Outcome.Alike (x.map .text) (y.map .text) := by
    rw [hxy]
    cases y with
    | ok s => exact .ok (.text s)
    | error e => exact .error e
  unfold run
  cases hc : c.keyword with
  | describe => exact told (h.describe_eq _)
  | summarize => exact told (h.summarizeTable_eq _)
  | list => exact told (h.listTable_eq _)
  | count =>
    refine h.sheet.bind ?_
    intro s t hst
    rw [hst.rows.length_eq]
    exact .ok (.text _)
  | generate => exact h.generateColumn_alike _
  | drop => exact h.dropColumns_alike _
  | merge => exact h.mergeDataset_alike hc hu
  | frameChange => exact h.changeFrame_alike _
  | frameDir =>
    rw [h.listFrames_eq]
    exact .ok (.text _)

/-! ## Lines -/

/-- **What lines give alike**: the same but for the rows of new content. -/
structure Interpreted.Alike (r r' : Interpreted) : Prop where
  handled : r'.handled = r.handled
  logs : r'.logs = r.logs
  content : Option.Rel Content.Alike r.content r'.content
  switchTo : r'.switchTo = r.switchTo

/-- **A line gives the same log, and content that is alike.** -/
theorem interpret_alike {line : String} (h : ctx.Alike ctx')
    (hu : ∀ name, Uses line name → EndsAlike Dataset.Same (ctx.find name) (ctx'.find name)) :
    (interpret ctx line).Alike (interpret ctx' line) := by
  unfold interpret
  split
  · exact ⟨rfl, rfl, .none, rfl⟩
  · rename_i c hc
    have hrun : EndsAlike Outcome.Alike (c.run ctx) (c.run ctx') := by
      refine Command.run_alike h ?_
      intro name hn
      exact hu name ⟨c, hc, hn⟩
    generalize c.run ctx = x, c.run ctx' = y at hrun
    cases hrun with
    | error e => exact ⟨rfl, rfl, .none, rfl⟩
    | ok ho =>
      cases ho with
      | text s => exact ⟨rfl, rfl, .none, rfl⟩
      | replace s hcontent => exact ⟨rfl, rfl, .some hcontent, rfl⟩
      | switch s name => exact ⟨rfl, rfl, .none, rfl⟩

end Tabular
