import Tabular.Proofs.Console.Outcome

/-!
# What a command reads

A command reads the active dataset and the options, and a merge reads one more dataset. Only the
`frame` commands look at all datasets.

* `Command.using?` is the name of the dataset that a merge reads; `mergeDataset_cases` says that it
  merges this one or none.
* `Command.run_congr`: **a command gives the same outcome wherever it reads the same.**
* `SparesFrames` and `Uses` say of a line that it is no `frame` command, and which dataset it reads.
-/

namespace Tabular

/-- The name of the dataset that a merge reads, if its arguments name one. -/
def Command.using? (c : Command) : Option String :=
  match c.keyword, c.args with
  | .merge, kind :: _ :: word :: name :: more =>
    if kind = "1:1" ∧ lowered word = "using" then some (unquoted (name :: more)) else none
  | _, _ => none

theorem Command.keyword_of_using? {c : Command} {name : String} (h : c.using? = some name) :
    c.keyword = .merge := by
  unfold using? at h
  split at h
  · assumption
  · cases h

/-- The line is no `frame` command. -/
def SparesFrames (line : String) : Prop :=
  ∀ c, Command.parse? line = some c → c.keyword ≠ .frameChange ∧ c.keyword ≠ .frameDir

/-- The line merges the dataset of a name into the active one. -/
def Uses (line name : String) : Prop :=
  ∃ c, Command.parse? line = some c ∧ c.using? = some name

variable {ctx ctx' : Context} {c : Command}

/-- Datasets of one name are found alike where all names are the same. -/
theorem Context.find_congr {name : String}
    (hn : ctx.datasets.map (·.name) = ctx'.datasets.map (·.name))
    (hf : ctx.datasets.find? (·.name == name) = ctx'.datasets.find? (·.name == name)) :
    ctx.find name = ctx'.find name := by
  unfold find
  rw [hn, hf]

/-- The merge of the dataset of a name into the active sheet, by a key column. -/
def mergeNamed (ctx : Context) (column name : String) : Except BenchError Outcome := do
  let sheet ← ctx.sheet
  let other ← Context.sheetOf (← ctx.find name)
  let merged ← merge sheet.rows sheet.columns other.rows other.columns column
  return .replace merged.report.text
    (.profiled ctx.options.inference merged.columns merged.rows)

/-- A merge is refused for its arguments, or it merges the dataset that it reads. -/
theorem mergeDataset_cases (hk : c.keyword = .merge) :
    (∀ ctx, mergeDataset ctx c.args = .error (.invalidSyntax .merge)) ∨
      ∃ column name, c.using? = some name ∧
        ∀ ctx, mergeDataset ctx c.args = mergeNamed ctx column name := by
  unfold Command.using? mergeDataset
  rw [hk]
  split
  · rename_i kind column word name more hargs
    rw [hargs]
    dsimp only
    by_cases hkind : kind = "1:1" ∧ lowered word = "using"
    · refine .inr ⟨column, unquoted (name :: more), if_pos hkind, fun ctx => if_neg ?_⟩
      rw [not_or, not_not, not_not]
      exact hkind
    · refine .inl fun ctx => if_pos ?_
      rw [not_and_or] at hkind
      exact hkind
  · exact .inl fun ctx => rfl

/-- A merge reads the active sheet and that of its using dataset. -/
theorem mergeDataset_congr (hk : c.keyword = .merge) (hs : ctx.sheet = ctx'.sheet)
    (ho : ctx.options = ctx'.options)
    (hu : ∀ name, c.using? = some name → ctx.find name = ctx'.find name) :
    mergeDataset ctx c.args = mergeDataset ctx' c.args := by
  rcases mergeDataset_cases hk with h | ⟨column, name, hn, h⟩
  · rw [h, h]
  · rw [h, h, mergeNamed, mergeNamed, hs, ho, hu name hn]

/-- **A command gives the same outcome wherever it reads the same.** -/
theorem Command.run_congr (hk : c.keyword ≠ .frameChange ∧ c.keyword ≠ .frameDir)
    (ha : ctx.active = ctx'.active) (ho : ctx.options = ctx'.options)
    (hu : ∀ name, c.using? = some name → ctx.find name = ctx'.find name) :
    c.run ctx = c.run ctx' := by
  have hd : ctx.dataset = ctx'.dataset := by
    unfold Context.dataset
    rw [ha]
  have hs : ctx.sheet = ctx'.sheet := by
    unfold Context.sheet
    rw [hd]
  unfold run
  cases hc : c.keyword with
  | describe => simp only [describe, hd, hs]
  | summarize => simp only [summarizeTable, hs]
  | list => simp only [listTable, hs]
  | count => simp only [hs]
  | generate => simp only [generateColumn, hs, ho]
  | drop => simp only [dropColumns, hs, ho]
  | merge => exact mergeDataset_congr hc hs ho hu
  | frameChange => exact absurd hc hk.1
  | frameDir => exact absurd hc hk.2

end Tabular
