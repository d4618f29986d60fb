import Mathlib
import Tabular.Proofs.Agree

/-!
# What a report about selected columns discloses

A report about selected columns takes its measures and its categories from the selection. Only for
the table over time it falls back on a date column that was not selected.

* `Disclosed` are the columns that such a report is made of. `SameDisclosed` compares two tables on
  them: row by row they have the same cells there, and their date columns are the same.
* `names_filter_summaries`: columns that are chosen by their summaries.
* `mem_of_primaryDate?`: the table over time is about a date column.
* `groundTruth_sameDisclosed`: **nothing else of a table can be told from the report.**
* `groundTruth_custom`: neither can the order of the selection, and to select all columns is to
  select none.
-/

namespace Tabular

variable {policy : Inference} {columns selected selected' dates : List String}
  {rows rows' : List Row} {profile : List Summary} {column name : String}

/-- **The columns that a report about selected ones is made of**: these and the date columns. -/
def Disclosed (policy : Inference) (rows : List Row) (columns selected : List String)
    (name : String) : Prop :=
  name ∈ columns ∧ (name ∈ selected ∨ (summarize policy rows name).type = .date)

/-- **Two tables with the same disclosed cells**: they have the same date columns, and row by row
the same cells in these and in the selected columns. Any other column may hold other cells, and so
be of another type. -/
structure SameDisclosed (policy : Inference) (columns selected : List String)
    (rows rows' : List Row) : Prop where
  dates : ∀ name ∈ columns,
    (summarize policy rows name).type = .date ↔ (summarize policy rows' name).type = .date
  cells : List.Forall₂ (Row.AgreeOn (Disclosed policy rows columns selected)) rows rows'

/-- Columns that are chosen by their summaries. -/
theorem names_filter_summaries (test : Summary → Bool) (policy : Inference) (rows : List Row)
    (columns : List String) :
    ((summaries policy rows columns).filter test).map (·.name) =
      columns.filter fun name => test (summarize policy rows name) := by
  unfold summaries
  rw [List.filter_map, List.map_map]
  exact List.map_id _

theorem columnsOf_summaries (type : ColumnType) (policy : Inference) (rows : List Row)
    (columns : List String) :
    columnsOf type (summaries policy rows columns) =
      columns.filter fun name => (summarize policy rows name).type == type :=
  names_filter_summaries _ policy rows columns

theorem primaryDate?_custom (selected dates : List String) :
    primaryDate? (.custom selected) dates =
      (dates.find? (Scope.custom selected).allows).or dates.head? :=
  rfl

/-- The table over time is about a date column. -/
theorem mem_of_primaryDate? {scope : Scope} (h : primaryDate? scope dates = some column) :
    column ∈ dates := by
  cases scope with
  | full => exact List.mem_of_head? h
  | custom selected =>
    rcases Option.or_eq_some_iff.1 h with h | ⟨-, h⟩
    · exact List.mem_of_find?_eq_some h
    · exact List.mem_of_head? h

theorem allows_custom : (Scope.custom selected).allows name = true ↔ name ∈ selected :=
  List.contains_iff_mem

/-- **Nothing but the disclosed cells can be told from a report.** -/
theorem groundTruth_sameDisclosed (h : SameDisclosed policy columns selected rows rows')
    (ceiling : Nat) :
    groundTruth rows (summaries policy rows columns) (.custom selected) ceiling =
      groundTruth rows' (summaries policy rows' columns) (.custom selected) ceiling := by
  let scope := Scope.custom selected
  have hselected (name : String) (hname : name ∈ columns) (hs : scope.allows name = true) :
      summarize policy rows name = summarize policy rows' name :=
    summarize_congr h.cells policy ⟨hname, .inl (allows_custom.1 hs)⟩
  -- the two profiles differ, but not in the columns that the report is made of
  have hmeasures : (columnsOf .number (summaries policy rows columns)).filter scope.allows =
      (columnsOf .number (summaries policy rows' columns)).filter scope.allows := by
    rw [columnsOf_summaries, columnsOf_summaries, List.filter_filter, List.filter_filter]
    refine List.filter_congr fun name hname => ?_
    cases hs : scope.allows name with
    | false => rfl
    | true => rw [hselected name hname hs]
  have hdates : columnsOf .date (summaries policy rows columns) =
      columnsOf .date (summaries policy rows' columns) := by
    rw [columnsOf_summaries, columnsOf_summaries]
    refine List.filter_congr fun name hname => ?_
    rw [Bool.eq_iff_iff, beq_iff_eq, beq_iff_eq, h.dates name hname]
  have hcategories :
      ((summaries policy rows columns).filter fun s =>
        s.isCategorical ceiling && scope.allows s.name).map (·.name) =
      ((summaries policy rows' columns).filter fun s =>
        s.isCategorical ceiling && scope.allows s.name).map (·.name) := by
    rw [names_filter_summaries, names_filter_summaries]
    refine List.filter_congr fun name hname => ?_
    cases hs : scope.allows name with
    | false => simp only [summarize, hs, Bool.and_false]
    | true => rw [hselected name hname hs]
  rw [groundTruth_eq_report, groundTruth_eq_report, ← hmeasures, ← hdates, ← hcategories]
  refine report_congr h.cells ?_ ?_ ?_
  · intro m hm
    obtain ⟨hm, hs⟩ := List.mem_filter.1 hm
    rw [columnsOf_summaries] at hm
    exact ⟨(List.mem_filter.1 hm).1, .inl (allows_custom.1 hs)⟩
  · intro date hdate
    have hdate := mem_of_primaryDate? hdate
    rw [columnsOf_summaries, List.mem_filter, beq_iff_eq] at hdate
    exact ⟨hdate.1, .inr hdate.2⟩
  · intro c hc
    rw [names_filter_summaries, List.mem_filter, Bool.and_eq_true] at hc
    exact ⟨hc.1, .inl (allows_custom.1 hc.2.2)⟩

/-- Scopes that allow the same columns of a profile, and go by the same date, give one report. -/
theorem groundTruth_eq_of_allows {scope scope' : Scope}
    (hallows : ∀ s ∈ profile, scope.allows s.name = scope'.allows s.name)
    (hdate : primaryDate? scope (columnsOf .date profile) =
      primaryDate? scope' (columnsOf .date profile)) (rows : List Row) (ceiling : Nat) :
    groundTruth rows profile scope ceiling = groundTruth rows profile scope' ceiling := by
  have hmeasures : (columnsOf .number profile).filter scope.allows =
      (columnsOf .number profile).filter scope'.allows := by
    refine List.filter_congr fun name hname => ?_
    obtain ⟨s, hs, rfl⟩ := List.mem_map.1 hname
    exact hallows s (List.mem_filter.1 hs).1
  have hcategories : (profile.filter fun s => s.isCategorical ceiling && scope.allows s.name) =
      profile.filter fun s => s.isCategorical ceiling && scope'.allows s.name :=
    List.filter_congr fun s hs => by rw [hallows s hs]
  rw [groundTruth_eq_report, groundTruth_eq_report, hmeasures, hdate, hcategories]

/-- The order of the selection does not matter, nor how often a column is in it. -/
theorem groundTruth_selected (h : ∀ name, name ∈ selected' ↔ name ∈ selected) (rows : List Row)
    (profile : List Summary) (ceiling : Nat) :
    groundTruth rows profile (.custom selected') ceiling =
      groundTruth rows profile (.custom selected) ceiling := by
  have hallows : (Scope.custom selected').allows = (Scope.custom selected).allows := by
    funext name
    rw [Bool.eq_iff_iff, allows_custom, allows_custom, h name]
  refine groundTruth_eq_of_allows (fun s _ => congrFun hallows s.name) ?_ rows ceiling
  rw [primaryDate?_custom, primaryDate?_custom, hallows]

/-- To select all columns is to select none. -/
theorem groundTruth_full (h : ∀ s ∈ profile, s.name ∈ selected) (rows : List Row)
    (ceiling : Nat) :
    groundTruth rows profile (.custom selected) ceiling =
      groundTruth rows profile .full ceiling := by
  refine groundTruth_eq_of_allows (fun s hs => allows_custom.2 (h s hs)) ?_ rows ceiling
  have hall : ∀ date ∈ columnsOf .date profile, date ∈ selected := by
    intro date hdate
    obtain ⟨s, hs, rfl⟩ := List.mem_map.1 hdate
    exact h s (List.mem_filter.1 hs).1
  rw [primaryDate?_custom]
  cases hdates : columnsOf .date profile with
  | nil => rfl
  | cons date dates =>
    have hdate : date ∈ selected := hall date (hdates ▸ List.mem_cons_self)
    rw [List.find?_cons_of_pos (allows_custom.2 hdate)]
    rfl

/-- **A report about selected columns discloses only these and the date columns.** Two tables that
are profiled under one policy, with the same cells there, give the same report, whatever their other
columns hold. The report depends on the selection as a set only, and about all columns it is the
full one. -/
theorem groundTruth_custom (policy : Inference) (columns selected : List String) (ceiling : Nat) :
    (∀ rows rows', SameDisclosed policy columns selected rows rows' →
      groundTruth rows (summaries policy rows columns) (.custom selected) ceiling =
        groundTruth rows' (summaries policy rows' columns) (.custom selected) ceiling) ∧
      (∀ rows profile selected', (∀ name, name ∈ selected' ↔ name ∈ selected) →
        groundTruth rows profile (.custom selected') ceiling =
          groundTruth rows profile (.custom selected) ceiling) ∧
      ∀ rows profile, (∀ s ∈ profile, s.name ∈ selected) →
        groundTruth rows profile (.custom selected) ceiling =
          groundTruth rows profile .full ceiling :=
  ⟨fun _ _ h => groundTruth_sameDisclosed h ceiling,
    fun rows profile _ h => groundTruth_selected h rows profile ceiling,
    fun rows _ h => groundTruth_full h rows ceiling⟩

/-- Two tables with the same days and amounts: the nicknames of the one are texts. -/
def namedRows : List Row :=
  [.ofList [("day", .text "2024-01-03"), ("nick", .text "x"), ("amount", .number 1)],
    .ofList [("day", .text "2024-02-29"), ("nick", .text "y"), ("amount", .text "z")],
    .ofList [("day", .text "2024-02-29"), ("nick", .text "y"), ("amount", .number 2)]]

/-- The nicknames of the other are numbers, and one is missing. -/
def numberedRows : List Row :=
  [.ofList [("day", .text "2024-01-03"), ("nick", .number 7), ("amount", .number 1)],
    .ofList [("day", .text "2024-02-29"), ("nick", .number 8), ("amount", .text "z")],
    .ofList [("day", .text "2024-02-29"), ("amount", .number 2)]]

theorem sameDisclosed_namedRows :
    SameDisclosed .first ["day", "nick", "amount"] ["amount"] namedRows numberedRows := by
  have hnick : ¬("nick" ∈ ["amount"] ∨ (summarize .first namedRows "nick").type = .date) := by
    decide +kernel
  have hagree (r s : Row) (hday : r.cell "day" = s.cell "day")
      (hamount : r.cell "amount" = s.cell "amount") :
      r.AgreeOn (Disclosed .first namedRows ["day", "nick", "amount"] ["amount"]) s := by
    rintro name ⟨hname, hshown⟩
    simp only [List.mem_cons, List.not_mem_nil, or_false] at hname
    rcases hname with rfl | rfl | rfl
    · exact hday
    · exact absurd hshown hnick
    · exact hamount
  refine ⟨by decide +kernel, .cons ?_ (.cons ?_ (.cons ?_ .nil))⟩ <;>
    exact hagree _ _ (by decide +kernel) (by decide +kernel)

/-- The profiles of the two tables differ and the reports do not; and selecting a column twice, or
all columns, comes to the same as selecting it once, or none. -/
theorem groundTruth_custom_namedRows :
    let columns := ["day", "nick", "amount"]
    let profile := summaries .first namedRows columns
    profile ≠ summaries .first numberedRows columns ∧
      groundTruth namedRows profile (.custom ["amount"]) 50 =
        groundTruth numberedRows (summaries .first numberedRows columns) (.custom ["amount"]) 50 ∧
      groundTruth namedRows profile (.custom ["amount", "amount"]) 50 =
        groundTruth namedRows profile (.custom ["amount"]) 50 ∧
      groundTruth namedRows profile (.custom columns) 50 =
        groundTruth namedRows profile .full 50 := by
  dsimp only
  obtain ⟨hsame, hset, -⟩ :=
    groundTruth_custom .first ["day", "nick", "amount"] ["amount"] 50
  obtain ⟨-, -, hall⟩ :=
    groundTruth_custom .first ["day", "nick", "amount"] ["day", "nick", "amount"] 50
  refine ⟨by decide +kernel, hsame _ _ sameDisclosed_namedRows, hset _ _ _ ?_, hall _ _ ?_⟩
  · simp
  · decide +kernel

end Tabular
