import Tabular.Proofs.Merge.Progress
import Tabular.Proofs.Row

/-!
# A merge is a left join

* `Matches` is the using row that a master row is matched with: the last one with its key.
  `match?_eq_some` finds it in the index.
* `Joins` is what becomes of a master row, `LeftJoin` of whole tables, with the account.
* `leftJoin_of_merge`: a merge that succeeds gives the left join.
* `merge_leftJoin`: **a merge is a left join and its account balances**; it fails only for want of
  the key column.
-/

namespace Tabular

variable {column name : String} {master u out : Row} {masters usings : List Row}
  {masterColumns usingColumns : List String}

/-! ## The using row of a master row -/

/-- The using row that a master row is matched with: the last one with the same key. -/
def Matches (column : String) (usings : List Row) (master u : Row) : Prop :=
  ∃ before after, usings = before ++ u :: after ∧
    SameKey (master.cell column) (u.cell column) ∧
    ∀ r ∈ after, ¬ SameKey (master.cell column) (r.cell column)

theorem Matches.mem (h : Matches column usings master u) : u ∈ usings := by
  obtain ⟨before, after, rfl, -, -⟩ := h
  simp

theorem Matches.sameKey (h : Matches column usings master u) :
    SameKey (master.cell column) (u.cell column) := by
  obtain ⟨_, _, -, h, -⟩ := h
  exact h

theorem sameKey_iff_of_key? {k : Key} (h : master.key? column = some k) :
    SameKey (master.cell column) (u.cell column) ↔ u.key? column = some k := by
  rw [sameKey_iff]
  constructor
  · rintro ⟨j, hm, hu⟩
    rw [Row.key?] at h
    cases hm.symm.trans h
    exact hu
  · intro hu
    exact ⟨k, h, hu⟩

namespace Index

/-- The index finds the match of a master row. -/
theorem match?_eq_some :
    (of column usings).match? column master = some u ↔ Matches column usings master u := by
  unfold match? Matches
  rw [Option.bind_eq_some_iff]
  constructor
  · rintro ⟨k, hk, hu⟩
    rw [lookup_of, List.find?_eq_some_iff_append] at hu
    obtain ⟨hu, after, before, hsplit, hafter⟩ := hu
    -- the index is as if the rows were searched from the last one on
    refine ⟨before.reverse, after.reverse, ?_, ?_, ?_⟩
    · rw [← List.reverse_reverse usings, hsplit]
      simp
    · rw [sameKey_iff_of_key? hk]
      simpa using hu
    · intro r hr
      rw [sameKey_iff_of_key? hk]
      simpa using hafter r (List.mem_reverse.1 hr)
  · rintro ⟨before, after, rfl, hu, hafter⟩
    obtain ⟨k, hk, -⟩ := sameKey_iff.1 hu
    refine ⟨k, hk, ?_⟩
    rw [lookup_of, List.find?_eq_some_iff_append]
    refine ⟨?_, after.reverse, before.reverse, by simp, ?_⟩
    · simpa using (sameKey_iff_of_key? hk).1 hu
    · intro r hr
      have := mt (sameKey_iff_of_key? hk).2 (hafter r (List.mem_reverse.1 hr))
      simpa using this

theorem match?_eq_none : (of column usings).match? column master = none ↔
    ∀ r ∈ usings, ¬ SameKey (master.cell column) (r.cell column) := by
  unfold match?
  rw [Option.bind_eq_none_iff]
  constructor
  · intro h r hr hs
    obtain ⟨k, hk, hrk⟩ := sameKey_iff.1 hs
    have := h k hk
    rw [lookup_of, List.find?_eq_none] at this
    exact this r (List.mem_reverse.2 hr) (beq_iff_eq.2 hrk)
  · intro h k hk
    rw [lookup_of, List.find?_eq_none]
    intro r hr hrk
    exact h r (List.mem_reverse.1 hr) ((sameKey_iff_of_key? hk).2 (by simpa using hrk))

end Index

/-! ## What becomes of a master row -/

/-- The cells of a master row over which its match is laid; the key cell stays the master's. -/
theorem get?_joinRow : (joinRow column master u).get? name =
    if name = column then some (master.cell column) else (u.get? name).or (master.get? name) := by
  unfold joinRow
  rw [Row.get?_insert, Row.get?_overlay]

/-- **What becomes of a master row**: a row with a match has the cells of its match over its own,
all but the key cell, and a row without one stays as it is. -/
inductive Joins (column : String) (usings : List Row) (master : Row) : Row → Prop where
  | matched {u out : Row} (h : Matches column usings master u)
      (cells : ∀ name, out.get? name =
        if name = column then some (master.cell column) else (u.get? name).or (master.get? name)) :
      Joins column usings master out
  | unmatched (h : ∀ u ∈ usings, ¬ SameKey (master.cell column) (u.cell column)) :
      Joins column usings master master

theorem joins_mergeRow (column : String) (usings : List Row) (master : Row) :
    Joins column usings master (mergeRow (.of column usings) column master) := by
  unfold mergeRow
  split
  · rename_i u hu
    exact .matched (Index.match?_eq_some.1 hu) fun name => get?_joinRow
  · rename_i hu
    exact .unmatched (Index.match?_eq_none.1 hu)

/-- The match of a master row is laid over it, as far as it stores cells: a column that it does
not store keeps the master's cell. -/
theorem Joins.cell_eq_iff (h : Joins column usings master out) (hu : Matches column usings master u)
    (hn : name ≠ column) :
    out.cell name = u.cell name ↔ name ∈ u.names ∨ master.cell name = .empty := by
  cases h with
  | unmatched h => exact absurd hu.sameKey (h u hu.mem)
  | @matched v _ hv cells =>
    -- a master row has only one match
    obtain rfl : u = v :=
      Option.some.inj ((Index.match?_eq_some.2 hu).symm.trans (Index.match?_eq_some.2 hv))
    have hout := cells name
    rw [if_neg hn] at hout
    unfold Row.cell
    rw [Row.mem_names, hout]
    cases u.get? name <;> simp

/-! ## The columns -/

/-- The master columns come first, then the using columns that are new, each once. -/
theorem mergeColumns_eq (masterColumns usingColumns : List String) :
    mergeColumns masterColumns usingColumns =
      masterColumns ++ (usingColumns.filter (· ∉ masterColumns)).eraseDups := by
  unfold mergeColumns
  induction usingColumns generalizing masterColumns with
  | nil => simp
  | cons c cs ih =>
    rw [List.foldl_cons, ih]
    by_cases hc : c ∈ masterColumns
    · simp [hc]
    · rw [if_neg hc, List.filter_cons_of_pos (by simpa using hc), List.eraseDups_cons,
        List.filter_filter, List.append_assoc, List.singleton_append]
      congr 3
      refine List.filter_congr fun d _ => ?_
      rw [Bool.beq_eq_decide_eq]
      simp [and_comm]

/-- The columns of a merge are those of both tables. -/
theorem mem_mergeColumns : name ∈ mergeColumns masterColumns usingColumns ↔
    name ∈ masterColumns ∨ name ∈ usingColumns := by
  rw [mergeColumns_eq, List.mem_append, List.mem_eraseDups, List.mem_filter, decide_eq_true_eq]
  tauto

/-- A column that is added is new. -/
theorem nodup_mergeColumns (h : masterColumns.Nodup) :
    (mergeColumns masterColumns usingColumns).Nodup := by
  refine List.foldlRecOn usingColumns _ h fun columns h c _ => ?_
  split
  · exact h
  · rename_i hc
    rw [← List.concat_eq_append]
    exact .concat hc h

/-! ## Whole tables -/

/-- **The left join of two tables by a key column**, and the account of it. -/
structure LeftJoin (column : String) (masters : List Row) (masterColumns : List String)
    (usings : List Row) (usingColumns : List String) (m : Merged) : Prop where
  rows : List.Forall₂ (Joins column usings) masters m.rows
  columns : m.columns = masterColumns ++ (usingColumns.filter (· ∉ masterColumns)).eraseDups
  matched : m.report.matched =
    masters.countP fun r => ∃ u ∈ usings, SameKey (r.cell column) (u.cell column)
  masterOnly : m.report.matched + m.report.masterOnly = masters.length
  usingOnly : m.report.usingOnly = (distinctKeys column usings \ distinctKeys column masters).card
  usingDuplicates : (distinctKeys column usings ∩ distinctKeys column masters).card +
    m.report.usingOnly + m.report.usingDuplicates = usings.countP fun r => !(r.cell column).isMissing

theorem isSome_match? : ((Index.of column usings).match? column master).isSome = true ↔
    ∃ u ∈ usings, SameKey (master.cell column) (u.cell column) := by
  rw [Option.isSome_iff_ne_none, ne_eq, Index.match?_eq_none]
  simp

/-- A merge that succeeds gives the left join of two tables that have the key column. -/
theorem leftJoin_of_merge {m : Merged}
    (h : merge masters masterColumns usings usingColumns column = .ok m) :
    column ∈ masterColumns ∧ column ∈ usingColumns ∧
      LeftJoin column masters masterColumns usings usingColumns m := by
  obtain ⟨hmaster, husing, hrows, hcolumns, hreport⟩ := merge_eq_ok.1 h
  refine ⟨hmaster, husing, ?_, hcolumns.trans (mergeColumns_eq _ _), ?_, hreport.masterOnly,
    hreport.usingOnly.trans Index.countP_of, ?_⟩
  · rw [hrows, List.forall₂_map_right_iff]
    exact List.forall₂_same.2 fun r _ => joins_mergeRow column usings r
  · rw [hreport.matched]
    exact List.countP_congr fun r _ => by simpa using isSome_match?
  · -- a key of the index is matched or not, and a row that is not in the index was replaced
    have hbalance := hreport.usingDuplicates
    have hsplit := Finset.card_inter_add_card_sdiff (distinctKeys column usings)
      (distinctKeys column masters)
    rw [hreport.usingOnly, Index.countP_of, hsplit, ← Index.length_of, hbalance, length_keys]

/-- **A merge is a left join and its account balances.** It fails exactly when the key column is
missing, from the master columns or else from the using columns. Keys are compared as cells are
the same, and missing cells have none. -/
theorem merge_leftJoin (masters : List Row) (masterColumns : List String) (usings : List Row)
    (usingColumns : List String) (column : String) :
    (column ∉ masterColumns → merge masters masterColumns usings usingColumns column =
      .error (.keyNotFound column .master)) ∧
    (column ∈ masterColumns → column ∉ usingColumns →
      merge masters masterColumns usings usingColumns column =
        .error (.keyNotFound column .used)) ∧
    (column ∈ masterColumns → column ∈ usingColumns →
      ∃ m, merge masters masterColumns usings usingColumns column = .ok m ∧
        LeftJoin column masters masterColumns usings usingColumns m) ∧
    (∀ c d : Cell, SameKey c d ↔ ∃ k, c.key? = some k ∧ d.key? = some k) ∧
    (∀ c : Cell, c.key? = none ↔ c.isMissing = true) := by
  refine ⟨?_, ?_, ?_, fun c d => sameKey_iff, fun c => Cell.key?_eq_none⟩
  · intro h
    rw [merge, if_pos h]
  · intro hmaster h
    rw [merge, if_neg (not_not.2 hmaster), if_pos h]
  · intro hmaster husing
    cases hm : merge masters masterColumns usings usingColumns column with
    | ok m => exact ⟨m, rfl, (leftJoin_of_merge hm).2.2⟩
    | error e =>
      rw [merge, if_neg (not_not.2 hmaster), if_neg (not_not.2 husing)] at hm
      cases hm

end Tabular
