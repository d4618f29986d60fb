import Mathlib.Logic.Basic
import Tabular.Console.Run
import Tabular.Proofs.Refusal

/-!
# What commands give

For every command that can change something: when it succeeds, and with what. The rest of the
development reads these equivalences and opens no command.

* `generateColumn_eq_ok`, `dropColumns_eq_ok`, `mergeDataset_eq_ok` and `changeFrame_eq_ok`:
  the outcome of one command.
* `Command.run_cases`: **which commands give which kind of outcome.** Content is given only
  for the active sheet, and freshly profiled.
* `Edits` lists what the content can be, and `Command.edits_of_run` says that it is nothing else.
* `interpret_ignored` and `interpret_command`: what a line gives.
-/

namespace Tabular

variable {ctx : Context} {o : Outcome}

namespace Context

theorem dataset_eq_ok {d : Dataset} : ctx.dataset = .ok d ↔ ctx.active = some d := by
  unfold dataset
  split <;> simp_all

theorem sheetOf_eq_ok {d : Dataset} {s : Sheet} : sheetOf d = .ok s ↔ d.active? = some s := by
  unfold sheetOf
  split <;> simp_all

theorem sheet_eq_ok {s : Sheet} :
    ctx.sheet = .ok s ↔ ∃ d, ctx.active = some d ∧ d.active? = some s := by
  unfold sheet
  rw [bind_eq_ok]
  simp only [dataset_eq_ok, sheetOf_eq_ok]

theorem find_eq_ok {name : String} {d : Dataset} :
    ctx.find name = .ok d ↔ ctx.datasets.find? (·.name == name) = some d := by
  unfold find
  split
  · rename_i x h
    rw [h, Except.ok.injEq, Option.some.injEq]
  · rename_i h
    simp [h]

end Context

theorem checkColumns_eq_ok {s : Sheet} {names : List String} {u : Unit} :
    checkColumns s names = .ok u ↔ ∀ n ∈ names, n ∈ s.columns := by
  unfold checkColumns
  simp only [List.isEmpty_iff, List.filter_eq_nil_iff, Sheet.hasColumn, List.contains_eq_mem]
  split <;> simp_all

/-- A command keeps its line, without blanks around it. -/
theorem Command.line_of_parse? {line : String} {c : Command} (h : Command.parse? line = some c) :
    c.line = trimmed line := by
  obtain ⟨k, -, rfl⟩ := Option.map_eq_some_iff.1 h
  rfl

/-! ## Commands that give content -/

/-- `generate` adds a column under a name that is free, when the formula has a value in every
row. -/
theorem generateColumn_eq_ok {line : String} :
    generateColumn ctx line = .ok o ↔ ∃ sheet name source rows,
      ctx.sheet = .ok sheet ∧ generateRequest line = .ok (name, source) ∧
      sheet.hasColumn name = false ∧ generate sheet.rows sheet.columns name source = .ok rows ∧
      o = .replace (generatedText name (rows.countP fun r => (r.cell name).isMissing))
        (.profiled ctx.options.inference (sheet.columns ++ [name]) rows) := by
  unfold generateColumn
  rw [bind_eq_ok]
  constructor
  · rintro ⟨sheet, hs, h⟩
    obtain ⟨⟨name, source⟩, hr, h⟩ := bind_eq_ok.1 h
    simp only at h
    split at h
    · cases h
    · rename_i hcol
      split at h
      · cases h
      · rename_i rows hrows
        rw [pure_eq_ok] at h
        exact ⟨sheet, name, source, rows, hs, hr, by simpa using hcol, hrows, h.symm⟩
  · rintro ⟨sheet, name, source, rows, hs, hr, hcol, hrows, rfl⟩
    refine ⟨sheet, hs, bind_eq_ok.2 ⟨(name, source), hr, ?_⟩⟩
    simp only [hcol, hrows, Bool.false_eq_true, if_false]
    rfl

/-- `drop` removes columns that all exist, from the rows too. -/
theorem dropColumns_eq_ok {names : List String} :
    dropColumns ctx names = .ok o ↔ ∃ sheet, ctx.sheet = .ok sheet ∧ names ≠ [] ∧
      (∀ n ∈ names, n ∈ sheet.columns) ∧
      o = .replace s!"Dropped {names.eraseDups.length} variables."
        (.profiled ctx.options.inference (sheet.columns.filter (!names.contains ·))
          (sheet.rows.map (·.keep (!names.contains ·)))) := by
  unfold dropColumns
  rw [bind_eq_ok]
  constructor
  · rintro ⟨sheet, hs, h⟩
    split at h
    · cases h
    · rename_i hne
      obtain ⟨_, hc, h⟩ := bind_eq_ok.1 h
      rw [pure_eq_ok] at h
      exact ⟨sheet, hs, by simpa using hne, checkColumns_eq_ok.1 hc, h.symm⟩
  · rintro ⟨sheet, hs, hne, hall, rfl⟩
    refine ⟨sheet, hs, ?_⟩
    rw [if_neg (by simpa using hne)]
    exact bind_eq_ok.2 ⟨(), checkColumns_eq_ok.2 hall, rfl⟩

/-- `merge` joins the active sheet of a loaded dataset onto the active one. -/
theorem mergeDataset_eq_ok {args : List String} :
    mergeDataset ctx args = .ok o ↔ ∃ column word name more sheet d other merged,
      args = "1:1" :: column :: word :: name :: more ∧ lowered word = "using" ∧
      ctx.sheet = .ok sheet ∧ ctx.find (unquoted (name :: more)) = .ok d ∧
      d.active? = some other ∧
      merge sheet.rows sheet.columns other.rows other.columns column = .ok merged ∧
      o = .replace merged.report.text
        (.profiled ctx.options.inference merged.columns merged.rows) := by
  unfold mergeDataset
  constructor
  · intro h
    split at h
    · rename_i kind column word name more
      split at h
      · cases h
      · rename_i hk
        obtain ⟨hk, hw⟩ := not_or.1 hk
        obtain ⟨sheet, hs, h⟩ := bind_eq_ok.1 h
        obtain ⟨d, hd, h⟩ := bind_eq_ok.1 h
        obtain ⟨other, ho, h⟩ := bind_eq_ok.1 h
        obtain ⟨merged, hm, h⟩ := bind_eq_ok.1 h
        rw [pure_eq_ok] at h
        exact ⟨column, word, name, more, sheet, d, other, merged, by rw [not_not.1 hk],
          not_not.1 hw, hs, hd, Context.sheetOf_eq_ok.1 ho, hm, h.symm⟩
    · cases h
  · rintro ⟨column, word, name, more, sheet, d, other, merged, rfl, hw, hs, hd, ho, hm, rfl⟩
    simp only [hw, ne_eq, not_true_eq_false, or_self, if_false]
    refine bind_eq_ok.2 ⟨sheet, hs, bind_eq_ok.2 ⟨d, hd, bind_eq_ok.2 ⟨other, ?_, ?_⟩⟩⟩
    · exact Context.sheetOf_eq_ok.2 ho
    · exact bind_eq_ok.2 ⟨merged, hm, rfl⟩

theorem Command.run_merge {c : Command} (hk : c.keyword = .merge) :
    c.run ctx = mergeDataset ctx c.args := by
  rw [run, hk]

/-! ## Switching -/

/-- `frame change` gives the name of a loaded dataset, found under that name. -/
theorem changeFrame_eq_ok {parts : List String} :
    changeFrame ctx parts = .ok o ↔ ∃ d, unquoted parts ≠ "" ∧ ctx.find (unquoted parts) = .ok d ∧
      o = .switch s!"Switched to frame {d.name}" d.name := by
  unfold changeFrame
  simp only [String.isEmpty_iff]
  split
  · simp_all
  · rw [bind_eq_ok]
    simp only [pure_eq_ok]
    constructor
    · rintro ⟨d, hd, rfl⟩
      exact ⟨d, by assumption, hd, rfl⟩
    · rintro ⟨d, -, hd, rfl⟩
      exact ⟨d, hd, rfl⟩

/-! ## All commands -/

/-- **What a command that succeeds gives**: a text alone, new content for the active sheet
with its profile, or the name of a loaded dataset. -/
theorem Command.run_cases {c : Command} (h : c.run ctx = .ok o) :
    (c.keyword ∈ [.describe, .summarize, .list, .count, .frameDir] ∧ ∃ s, o = .text s) ∨
    (c.keyword ∈ [.generate, .drop, .merge] ∧ ∃ s sheet columns rows,
      ctx.sheet = .ok sheet ∧ o = .replace s (.profiled ctx.options.inference columns rows)) ∨
    (c.keyword = .frameChange ∧ ∃ s, ∃ d ∈ ctx.datasets, o = .switch s d.name) := by
  unfold run at h
  cases hk : c.keyword <;> rw [hk] at h <;> simp only at h
  case generate =>
    obtain ⟨sheet, name, source, rows, hs, -, -, -, rfl⟩ := generateColumn_eq_ok.1 h
    exact .inr (.inl ⟨by decide, _, sheet, _, _, hs, rfl⟩)
  case drop =>
    obtain ⟨sheet, hs, -, -, rfl⟩ := dropColumns_eq_ok.1 h
    exact .inr (.inl ⟨by decide, _, sheet, _, _, hs, rfl⟩)
  case merge =>
    obtain ⟨_, _, _, _, sheet, _, _, _, -, -, hs, -, -, -, rfl⟩ := mergeDataset_eq_ok.1 h
    exact .inr (.inl ⟨by decide, _, sheet, _, _, hs, rfl⟩)
  case frameChange =>
    obtain ⟨d, -, hd, rfl⟩ := changeFrame_eq_ok.1 h
    exact .inr (.inr ⟨rfl, _, d, List.mem_of_find?_eq_some (Context.find_eq_ok.1 hd), rfl⟩)
  case count =>
    obtain ⟨sheet, -, ho⟩ := bind_eq_ok.1 h
    exact .inl ⟨by decide, _, (pure_eq_ok.1 ho).symm⟩
  case frameDir => exact .inl ⟨by decide, _, (Except.ok.inj h).symm⟩
  -- the commands that only tell about a table
  all_goals
    obtain ⟨s, -, ho⟩ := map_eq_ok.1 h
    exact .inl ⟨by decide, s, ho.symm⟩

/-- **What a command makes of the columns and rows of a sheet.** -/
inductive Edits (ctx : Context) (sheet : Sheet) : List String → List Row → Prop where
  /-- A column is added, computed from a formula. -/
  | generated {name source : String} {rows : List Row} (hn : sheet.hasColumn name = false)
      (hg : generate sheet.rows sheet.columns name source = .ok rows) :
      Edits ctx sheet (sheet.columns ++ [name]) rows
  /-- Columns are left out, in the rows too. -/
  | dropped (names : List String) :
      Edits ctx sheet (sheet.columns.filter (!names.contains ·))
        (sheet.rows.map (·.keep (!names.contains ·)))
  /-- The active sheet of a loaded dataset is joined on. -/
  | merged {d : Dataset} {other : Sheet} {column : String} {merged : Merged}
      (hd : d ∈ ctx.datasets) (ho : d.active? = some other)
      (hm : merge sheet.rows sheet.columns other.rows other.columns column = .ok merged) :
      Edits ctx sheet merged.columns merged.rows

/-- New content comes from the active sheet by one of these edits. -/
theorem Command.edits_of_run {c : Command} {s : String} {content : Content}
    (h : c.run ctx = .ok (.replace s content)) :
    ∃ sheet, ctx.sheet = .ok sheet ∧ Edits ctx sheet content.columns content.rows := by
  rcases Command.run_cases h with ⟨-, s, ho⟩ | ⟨hk, -⟩ | ⟨-, s, d, -, ho⟩
  · cases ho
  · unfold run at h
    cases hc : c.keyword <;> rw [hc] at h hk <;> simp only at h
    case generate =>
      obtain ⟨sheet, name, source, rows, hs, -, hn, hg, ho⟩ := generateColumn_eq_ok.1 h
      cases ho
      exact ⟨sheet, hs, .generated hn hg⟩
    case drop =>
      obtain ⟨sheet, hs, -, -, ho⟩ := dropColumns_eq_ok.1 h
      cases ho
      exact ⟨sheet, hs, .dropped c.args⟩
    case merge =>
      obtain ⟨column, _, _, _, sheet, d, other, merged, -, -, hs, hd, ho, hm, hout⟩ :=
        mergeDataset_eq_ok.1 h
      cases hout
      exact ⟨sheet, hs, .merged (List.mem_of_find?_eq_some (Context.find_eq_ok.1 hd)) ho hm⟩
    all_goals exact absurd hk (by decide)
  · cases ho

/-! ## Lines -/

/-- A line that is no command gives nothing. -/
theorem interpret_ignored {line : String} (hc : Command.parse? line = none) :
    interpret ctx line = ⟨false, [], none, none⟩ := by
  rw [interpret, hc]

/-- A line that is a command gives what the command gives. -/
theorem interpret_command {line : String} {c : Command} (hc : Command.parse? line = some c) :
    interpret ctx line = .of c (c.run ctx) := by
  rw [interpret, hc]

end Tabular
