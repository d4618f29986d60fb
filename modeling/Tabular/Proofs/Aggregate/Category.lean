import Mathlib
import Tabular.Aggregate.Category
import Tabular.Proofs.Aggregate.Bucket

/-!
# The largest categories

The rows are collected by category, in the order in which the categories first occur. Sorting the
groups by size is stable, so that order still decides between groups of one size.

* `filter_mergeSort` and `pairwise_ranked`: a stable sort keeps the order of ties.
* `Outranks` is the order in which groups are shown.
* `byCategory_topGroups`: **the categories partition the rows, and the largest ones are shown.**
-/

namespace Tabular

variable {rows : List Row} {column : String} {measures : List String}

/-! ## Stable sorting -/

/-- Sorting leaves the order of members of equal rank. -/
theorem filter_mergeSort {α : Type} {le : α → α → Bool}
    (trans : ∀ a b c, le a b → le b c → le a c) (total : ∀ a b, le a b || le b a) {p : α → Bool}
    (tied : ∀ a b, p a → p b → le a b) (l : List α) :
    (l.mergeSort le).filter p = l.filter p := by
  have hsorted : (l.filter p).Pairwise (le · ·) :=
    List.pairwise_of_forall_mem_list fun a ha b hb =>
      tied a b (List.mem_filter.1 ha).2 (List.mem_filter.1 hb).2
  have hsub : (l.filter p).Sublist ((l.mergeSort le).filter p) := by
    have h := (List.sublist_mergeSort trans total hsorted List.filter_sublist).filter p
    simpa only [List.filter_filter, Bool.and_self] using h
  exact (hsub.eq_of_length ((List.mergeSort_perm l le).filter p).length_eq.symm).symm

/-- Larger buckets come first, and equal ones stay in an order that they had. -/
theorem pairwise_ranked {R : Bucket → Bucket → Prop} {l : List Bucket} (h : l.Pairwise R) :
    (l.mergeSort fun a b => b.count ≤ a.count).Pairwise fun a b =>
      b.count < a.count ∨ a.count = b.count ∧ R a b := by
  have trans (a b c : Bucket) : decide (b.count ≤ a.count) → decide (c.count ≤ b.count) →
      decide (c.count ≤ a.count) := by
    simp only [decide_eq_true_eq]
    omega
  have total (a b : Bucket) : decide (b.count ≤ a.count) || decide (a.count ≤ b.count) := by
    simp only [Bool.or_eq_true, decide_eq_true_eq]
    omega
  have hsorted := List.pairwise_mergeSort trans total l
  rw [List.pairwise_iff_forall_sublist] at hsorted h ⊢
  intro a b hab
  have hle : b.count ≤ a.count := of_decide_eq_true (hsorted hab)
  rcases Nat.lt_or_eq_of_le hle with hlt | heq
  · exact .inl hlt
  · -- among the buckets of this size nothing has moved
    refine .inr ⟨heq.symm, h ?_⟩
    have htied := filter_mergeSort trans total (p := fun x => x.count = a.count)
      (fun x y hx hy => by simp_all) l
    have hsub := hab.filter fun x => x.count = a.count
    rw [htied] at hsub
    simp only [List.filter_cons, decide_true, heq, if_true, List.filter_nil] at hsub
    exact hsub.trans List.filter_sublist

/-! ## Groups by category -/

/-- The categories of the rows, in row order. -/
def categories (rows : List Row) (column : String) : List String :=
  rows.map fun r => (r.cell column).category

/-- **The order in which groups are shown**: larger ones first, and of equal ones the one whose
first row comes first. -/
def Outranks (rows : List Row) (column : String) (a b : Bucket) : Prop :=
  b.count < a.count ∨ a.count = b.count ∧
    (categories rows column).idxOf a.key < (categories rows column).idxOf b.key

theorem filterMap_category (rows : List Row) (column : String) :
    (rows.filterMap fun r => some (r.cell column).category) = categories rows column :=
  congrFun List.filterMap_eq_map rows

theorem keys_categoryBuckets (rows : List Row) (column : String) (measures : List String) :
    (categoryBuckets rows column measures).map (·.key) = (categories rows column).eraseDups := by
  rw [categoryBuckets, Bucket.keys_collect, filterMap_category]

/-- The groups stand in the order of their first rows. -/
theorem pairwise_categoryBuckets (rows : List Row) (column : String) (measures : List String) :
    (categoryBuckets rows column measures).Pairwise fun a b =>
      (categories rows column).idxOf a.key < (categories rows column).idxOf b.key := by
  have hkeys : ((categoryBuckets rows column measures).map (·.key)).Pairwise fun a b =>
      (categories rows column).idxOf a < (categories rows column).idxOf b := by
    rw [keys_categoryBuckets]
    exact pairwise_idxOf_eraseDups _
  rwa [List.pairwise_map] at hkeys

/-- Every row is counted in one group. -/
theorem sum_counts_categoryBuckets (rows : List Row) (column : String) (measures : List String) :
    ((categoryBuckets rows column measures).map (·.count)).sum = rows.length := by
  rw [categoryBuckets, Bucket.sum_counts_collect, filterMap_category, categories, List.length_map]

/-- **The categories partition the rows, and the largest ones are shown.** The category of a row is
what its cell shows, or `Unknown` if that is missing. All groups, ranked by size and then by their
first rows, have every category once; each has the count and the sums of the rows of its category,
and the counts add up to all rows. The table shows the first ten of them, so no group that is left
out is larger than one that is shown. -/
theorem byCategory_topGroups (rows : List Row) (column : String) (measures : List String) :
    let table := byCategory rows column measures
    (∀ r : Row, (r.cell column).category =
      if (r.cell column).isMissing then "Unknown" else (r.cell column).display) ∧
    ∃ ranked : List Bucket,
      (ranked.map (·.key)).Nodup ∧
      (∀ category, category ∈ ranked.map (·.key) ↔ category ∈ categories rows column) ∧
      (∀ b ∈ ranked, b = .ofRows measures b.key
        (rows.filter fun r => (r.cell column).category = b.key)) ∧
      ranked.Pairwise (Outranks rows column) ∧
      (ranked.map (·.count)).sum = rows.length ∧
      table.total = (categories rows column).toFinset.card ∧
      table.total = ranked.length ∧
      table.buckets = ranked.take (min 10 table.total) ∧
      (table.buckets.map (·.key)).Nodup ∧
      ∀ kept ∈ table.buckets, ∀ omitted ∈ ranked.drop 10, omitted.count ≤ kept.count := by
  let groups := categoryBuckets rows column measures
  let ranked := groups.mergeSort fun a b => b.count ≤ a.count
  have hperm : ranked.Perm groups := List.mergeSort_perm _ _
  have hnodup : (ranked.map (·.key)).Nodup := by
    rw [(hperm.map _).nodup_iff, keys_categoryBuckets]
    exact nodup_eraseDups _
  have hranked : ranked.Pairwise (Outranks rows column) :=
    pairwise_ranked (pairwise_categoryBuckets rows column measures)
  have htotal : groups.length = (categories rows column).toFinset.card := by
    rw [← length_eraseDups, ← keys_categoryBuckets rows column measures, List.length_map]
  have hbuckets :
      (byCategory rows column measures).buckets = ranked.take (min 10 groups.length) := by
    rw [← hperm.length_eq, ← List.take_eq_take_min]
    rfl
  refine ⟨fun r => rfl, ranked, hnodup, ?_, ?_, hranked, ?_, htotal, hperm.length_eq.symm, hbuckets,
    ?_, ?_⟩
  · intro category
    rw [(hperm.map _).mem_iff, keys_categoryBuckets, List.mem_eraseDups]
  · intro b hb
    have h := Bucket.eq_ofRows_of_mem_collect (hperm.mem_iff.1 hb)
    simpa only [Bucket.rowsOf, Option.some.injEq] using h
  · rw [(hperm.map _).sum_eq]
    exact sum_counts_categoryBuckets rows column measures
  · rw [hbuckets, List.map_take]
    exact hnodup.sublist (List.take_sublist _ _)
  · intro kept hkept omitted homitted
    -- what is shown stands before what is not
    have hsplit : (ranked.take 10 ++ ranked.drop 10).Pairwise (Outranks rows column) := by
      rwa [List.take_append_drop]
    rcases (List.pairwise_append.1 hsplit).2.2 kept hkept omitted homitted with h | ⟨h, -⟩ <;> omega

/-- A row without a category, two rows that show the same one, and one whose category is named like
that of the first row. -/
def tiedRows : List Row :=
  [.ofList [("x", .number 4)], .ofList [("a", .number 1), ("x", .text "n/a")],
    .ofList [("a", .text "1"), ("x", .text "2")],
    .ofList [("a", .text "Unknown"), ("x", .number 0.5)]]

/-- Of two tied groups the one of the first row comes first. -/
theorem byCategory_topGroups_tiedRows :
    let table := byCategory tiedRows "a" ["x"]
    table.buckets = [⟨"Unknown", 2, [4.5]⟩, ⟨"1", 2, [2]⟩] ∧ table.total = 2 := by
  intro table
  obtain ⟨-, ranked, -, hkeys, hexact, hranked, -, htotal, hlength, hshown, -⟩ :=
    byCategory_topGroups tiedRows "a" ["x"]
  have htwo : table.total = 2 := by
    rw [htotal]
    decide +kernel
  have hbucket : ∀ b ∈ ranked, b = ⟨"Unknown", 2, [4.5]⟩ ∨ b = ⟨"1", 2, [2]⟩ := by
    intro b hb
    have hcategory := (hkeys b.key).1 (List.mem_map_of_mem hb)
    have hcategories : categories tiedRows "a" = ["Unknown", "1", "1", "Unknown"] := by
      decide +kernel
    simp only [hcategories, List.mem_cons, List.not_mem_nil, or_false] at hcategory
    have hb' := hexact b hb
    obtain hkey | hkey | hkey | hkey := hcategory <;> rw [hkey] at hb'
    · exact .inl (hb'.trans (by decide +kernel))
    · exact .inr (hb'.trans (by decide +kernel))
    · exact .inr (hb'.trans (by decide +kernel))
    · exact .inl (hb'.trans (by decide +kernel))
  refine ⟨?_, htwo⟩
  obtain ⟨b, c, rfl⟩ := List.length_eq_two.1 (hlength.symm.trans htwo)
  have hbc : Outranks tiedRows "a" b c := List.pairwise_pair.1 hranked
  rw [hshown, htwo]
  -- the second group does not outrank the first one
  obtain rfl | rfl := hbucket b (by simp) <;> obtain rfl | rfl := hbucket c (by simp) <;>
    unfold Outranks at hbc
  · exact absurd hbc (by decide +kernel)
  · rfl
  · exact absurd hbc (by decide +kernel)
  · exact absurd hbc (by decide +kernel)

end Tabular
