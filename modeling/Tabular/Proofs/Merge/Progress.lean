import Tabular.Proofs.Merge.Index

/-!
# The passes of a merge

A merge goes once through the using rows and once through the master rows, and counts on the way.

* `Entered` is what the first pass leads to: the index of the using rows, and as many duplicates as
  rows with a key that did not make the index longer (`entered_foldl`).
* `Joined` is what the second one leads to: every master row joined, matched or not, and its key hit
  (`joined_joinAll`).
* `Accounts` are the balances of the account, which leave one account only.
* `merge_eq_ok`: **a merge joins every master row with the index, and its account balances.**
-/

namespace Tabular

variable {column : String} {master r : Row} {masters usings : List Row} {p q : Progress}
  {masterColumns usingColumns : List String}

/-! ## A master row in the index -/

namespace Index

variable {index : Index}

/-- The row of a master row's key. -/
def match? (index : Index) (column : String) (master : Row) : Option Row :=
  (master.key? column).bind (index.lookup ·)

theorem find?_eq_some {k : Key} {r : Row} : index.find? column master = some (k, r) ↔
    master.key? column = some k ∧ index.lookup k = some r := by
  unfold find?
  rw [Option.bind_eq_some_iff]
  constructor
  · rintro ⟨j, hj, h⟩
    obtain ⟨s, hs, heq⟩ := Option.map_eq_some_iff.1 h
    cases heq
    exact ⟨hj, hs⟩
  · rintro ⟨hk, hr⟩
    exact ⟨k, hk, by rw [hr, Option.map_some]⟩

theorem map_find? : (index.find? column master).map Prod.snd = index.match? column master := by
  unfold find? match?
  cases master.key? column with
  | none => rfl
  | some k => simp

end Index

/-- A master row after the merge. -/
def mergeRow (index : Index) (column : String) (master : Row) : Row :=
  match index.match? column master with
  | some r => joinRow column master r
  | none => master

namespace Progress

/-! ## Entering the using rows -/

/-- **What entering rows leads to.** A row with a key makes the index longer or is a duplicate. -/
structure Entered (column : String) (rows : List Row) (p q : Progress) : Prop where
  index : q.index = rows.foldl (Index.step column) p.index
  hit : q.hit = p.hit
  matched : q.report.matched = p.report.matched
  masterOnly : q.report.masterOnly = p.report.masterOnly
  balance : q.index.length + q.report.usingDuplicates =
    p.index.length + p.report.usingDuplicates + (rows.filterMap (·.key? column)).length

theorem entered_enter (column : String) (p : Progress) (r : Row) :
    Entered column [r] p (p.enter column r) := by
  unfold enter
  cases hr : r.key? column with
  | none => exact ⟨by simp [Index.step, hr], rfl, rfl, rfl, by simp [hr]⟩
  | some k =>
    refine ⟨by simp [Index.step, hr], rfl, rfl, rfl, ?_⟩
    have hone : ([r].filterMap (·.key? column)).length = 1 := by simp [hr]
    rw [hone, Index.length_store]
    dsimp only
    split <;> omega

theorem entered_foldl (column : String) (rows : List Row) (p : Progress) :
    Entered column rows p (rows.foldl (enter column) p) := by
  induction rows generalizing p with
  | nil => exact ⟨rfl, rfl, rfl, rfl, rfl⟩
  | cons r rows ih =>
    have hr := entered_enter column p r
    have hrest := ih (p.enter column r)
    refine ⟨?_, hrest.hit.trans hr.hit, hrest.matched.trans hr.matched,
      hrest.masterOnly.trans hr.masterOnly, ?_⟩
    · rw [List.foldl_cons, hrest.index, hr.index]
      rfl
    · have hsplit : r :: rows = [r] ++ rows := rfl
      rw [List.foldl_cons, hrest.balance, hr.balance, hsplit, List.filterMap_append,
        List.length_append, Nat.add_assoc]

/-! ## Joining the master rows -/

/-- A master row is joined with the row of its key and counted as matched, or else left as it is. -/
theorem join_cases (column : String) (p : Progress) (master : Row) :
    (∃ k other, master.key? column = some k ∧ p.index.lookup k = some other ∧
      p.join column master = (joinRow column master other,
        { p with report.matched := p.report.matched + 1, hit := p.hit.insert k })) ∨
    (p.index.match? column master = none ∧ p.join column master =
      (master, { p with report.masterOnly := p.report.masterOnly + 1 })) := by
  have hmatch : (p.index.find? column master).map Prod.snd = p.index.match? column master :=
    Index.map_find?
  unfold join
  cases hfind : p.index.find? column master with
  | none =>
    rw [hfind] at hmatch
    exact .inr ⟨hmatch.symm, rfl⟩
  | some found =>
    obtain ⟨k, other⟩ := found
    obtain ⟨hk, hother⟩ := Index.find?_eq_some.1 hfind
    exact .inl ⟨k, other, hk, hother, rfl⟩

/-- **What joining rows leads to.** Of the keys in the index those of master rows are hit. -/
structure Joined (column : String) (masters : List Row) (p : Progress)
    (out : List Row × Progress) : Prop where
  rows : out.1 = masters.map (mergeRow p.index column)
  index : out.2.index = p.index
  usingDuplicates : out.2.report.usingDuplicates = p.report.usingDuplicates
  matched : out.2.report.matched =
    p.report.matched + masters.countP fun r => (p.index.match? column r).isSome
  balance : out.2.report.matched + out.2.report.masterOnly =
    p.report.matched + p.report.masterOnly + masters.length
  hit : ∀ k ∈ p.index.map Prod.fst,
    k ∈ out.2.hit ↔ k ∈ p.hit ∨ k ∈ masters.filterMap (·.key? column)

theorem joined_join (column : String) (p : Progress) (master : Row) :
    Joined column [master] p ([(p.join column master).1], (p.join column master).2) := by
  obtain ⟨k, other, hk, hother, heq⟩ | ⟨hnone, heq⟩ := join_cases column p master
  · have hmatch : p.index.match? column master = some other := by
      rw [Index.match?, hk, Option.bind_some, hother]
    rw [heq]
    refine ⟨by simp [mergeRow, hmatch], rfl, rfl, by simp [hmatch], ?_, ?_⟩
    · dsimp only [List.length_singleton]
      omega
    · intro j _
      simp [hk, List.mem_insert_iff, or_comm]
  · rw [heq]
    refine ⟨by simp [mergeRow, hnone], rfl, rfl, by simp [hnone], rfl, ?_⟩
    -- the row's key, if it has one, is not in the index
    intro j hj
    suffices h : master.key? column ≠ some j by simp [h]
    intro hkey
    rw [← Index.isSome_lookup] at hj
    rw [Index.match?, hkey, Option.bind_some] at hnone
    simp [hnone] at hj

theorem joined_joinAll (column : String) (masters : List Row) (p : Progress) :
    Joined column masters p (p.joinAll column masters) := by
  induction masters generalizing p with
  | nil => exact ⟨rfl, rfl, rfl, rfl, rfl, by simp [joinAll]⟩
  | cons master masters ih =>
    have hone := joined_join column p master
    have hrest := ih (p.join column master).2
    have hindex : (p.join column master).2.index = p.index := hone.index
    have hsplit : master :: masters = [master] ++ masters := rfl
    rw [joinAll]
    refine ⟨?_, hrest.index.trans hindex, hrest.usingDuplicates.trans hone.usingDuplicates, ?_, ?_,
      ?_⟩
    · have hrow : [(p.join column master).1] = [mergeRow p.index column master] := hone.rows
      dsimp only
      rw [hrest.rows, hindex, (List.cons.inj hrow).1, List.map_cons]
    · rw [hrest.matched, hone.matched, hindex, hsplit, List.countP_append, Nat.add_assoc]
    · rw [hrest.balance, hone.balance, hsplit, List.length_append, Nat.add_assoc]
    · intro k hk
      rw [hrest.hit k (hindex ▸ hk), hone.hit k hk, hsplit, List.filterMap_append, List.mem_append,
        or_assoc]

end Progress

/-! ## The whole merge -/

/-- **The balances of an account.** Every master row is matched or not, every key of the index that
no master row has is counted, and every using row with a key is in the index or was replaced. -/
structure Accounts (column : String) (masters usings : List Row) (report : MergeReport) : Prop where
  matched : report.matched =
    masters.countP fun r => ((Index.of column usings).match? column r).isSome
  masterOnly : report.matched + report.masterOnly = masters.length
  usingOnly : report.usingOnly =
    (Index.of column usings).countP fun e => e.1 ∉ masters.filterMap (·.key? column)
  usingDuplicates : (Index.of column usings).length + report.usingDuplicates =
    (usings.filterMap (·.key? column)).length

/-- The balances leave one account only. -/
theorem Accounts.unique {a b : MergeReport} (ha : Accounts column masters usings a)
    (hb : Accounts column masters usings b) : a = b := by
  obtain ⟨ha₁, ha₂, ha₃, ha₄⟩ := ha
  obtain ⟨hb₁, hb₂, hb₃, hb₄⟩ := hb
  cases a
  cases b
  simp only [MergeReport.mk.injEq] at *
  omega

/-- The passes end with an account that balances. -/
theorem accounts_account (column : String) (masters usings : List Row) :
    Accounts column masters usings
      (((usings.foldl (Progress.enter column) {}).joinAll column masters).2.account) := by
  have hentered := Progress.entered_foldl column usings {}
  generalize usings.foldl (Progress.enter column) {} = p at hentered ⊢
  have hjoined := Progress.joined_joinAll column masters p
  have hindex : p.index = Index.of column usings := hentered.index
  refine ⟨?_, ?_, ?_, ?_⟩
  · refine (hjoined.matched.trans ?_).trans (Nat.zero_add _)
    rw [hentered.matched, hindex]
  · refine (hjoined.balance.trans ?_).trans (Nat.zero_add _)
    rw [hentered.matched, hentered.masterOnly]
    rfl
  · unfold Progress.account
    rw [hjoined.index, ← hindex]
    refine List.countP_congr fun e he => ?_
    rw [decide_eq_true_eq, decide_eq_true_eq, not_iff_not,
      hjoined.hit e.1 (List.mem_map_of_mem he), hentered.hit]
    simp
  · rw [← hindex]
    exact (congrArg _ hjoined.usingDuplicates).trans (hentered.balance.trans (by simp))

/-- **A merge that succeeds**: both tables have the key column, every master row is joined with the
index of the using rows, and the account balances. -/
theorem merge_eq_ok {m : Merged} :
    merge masters masterColumns usings usingColumns column = .ok m ↔
      column ∈ masterColumns ∧ column ∈ usingColumns ∧
        m.rows = masters.map (mergeRow (.of column usings) column) ∧
        m.columns = mergeColumns masterColumns usingColumns ∧
        Accounts column masters usings m.report := by
  have hrows := (Progress.joined_joinAll column masters
    (usings.foldl (Progress.enter column) {})).rows
  have hindex := (Progress.entered_foldl column usings {}).index
  have haccount := accounts_account column masters usings
  rw [hindex] at hrows
  unfold merge
  constructor
  · intro h
    split at h
    · cases h
    rename_i hmaster
    split at h
    · cases h
    rename_i husing
    cases h
    exact ⟨not_not.1 hmaster, not_not.1 husing, hrows, rfl, haccount⟩
  · rintro ⟨hmaster, husing, hm, hcolumns, hreport⟩
    rw [if_neg (not_not.2 hmaster), if_neg (not_not.2 husing), Except.ok.injEq]
    cases m
    rw [Merged.mk.injEq]
    exact ⟨hrows.trans hm.symm, hcolumns.symm, haccount.unique hreport⟩

end Tabular
