import Mathlib
import Tabular.Aggregate.Trend
import Tabular.Proofs.Aggregate.Bucket
import Tabular.Proofs.Aggregate.Thin

/-!
# Rows over time are conserved

The buckets of a time column are those that its rows are collected in, sorted by their keys.
Thinning leaves buckets out, and changes none.

* `timeBuckets_perm`: sorting changes only the order.
* `pairwise_key_timeBuckets`: the keys rise strictly.
* `isSome_timeKey`: the rows that are collected are those with a date.
* `byTime_exact`: **every row with a date is counted once, and every bucket that is shown is
  exact.**
-/

namespace Tabular

variable {rows : List Row} {column : String} {measures : List String} {g : Granularity}

/-- The key of a row in a time column. -/
def timeKey (g : Granularity) (column : String) (r : Row) : Option String := g.key? (r.cell column)

theorem Granularity.two_le_cap (g : Granularity) : 2 ≤ g.cap := by
  cases g <;> decide

/-- Rows have a time when their date is not missing. -/
theorem isSome_timeKey (g : Granularity) (column : String) (r : Row) :
    (timeKey g column r).isSome = !(r.cell column).isMissing := by
  unfold timeKey Granularity.key?
  cases (r.cell column).isMissing <;> rfl

/-- Sorting changes only the order of the buckets. -/
theorem timeBuckets_perm (rows : List Row) (column : String) (measures : List String)
    (g : Granularity) :
    (timeBuckets rows column measures g).Perm
      (Bucket.collect (timeKey g column) measures rows) :=
  List.mergeSort_perm _ _

/-- **The keys rise strictly.** -/
theorem pairwise_key_timeBuckets (rows : List Row) (column : String) (measures : List String)
    (g : Granularity) : (timeBuckets rows column measures g).Pairwise (·.key < ·.key) := by
  have hsorted : (timeBuckets rows column measures g).Pairwise (·.key ≤ ·.key) := by
    refine (List.pairwise_mergeSort ?_ ?_ _).imp fun {a b} h => of_decide_eq_true h
    · intro a b c hab hbc
      exact decide_eq_true (String.le_trans (of_decide_eq_true hab) (of_decide_eq_true hbc))
    · intro a b
      simpa using String.le_total a.key b.key
  have hnodup : ((timeBuckets rows column measures g).map (·.key)).Nodup :=
    ((timeBuckets_perm rows column measures g).map _).nodup_iff.2
      (Bucket.nodup_keys_collect _ _ _)
  exact hsorted.imp₂ (fun a b hle hne => lt_of_le_of_ne hle hne) (List.pairwise_map.1 hnodup)

/-- The time of a row is the first characters of what its date shows. -/
theorem timeKey_eq (g : Granularity) (column : String) (r : Row) : timeKey g column r =
    if (r.cell column).isMissing then none
    else some (.ofList ((r.cell column).display.toList.take (if g = .day then 10 else 7))) := by
  cases g <;> rfl

theorem Granularity.cap_eq (g : Granularity) : g.cap = if g = .day then 48 else 24 := by
  cases g <;> rfl

/-- **Rows over time are conserved, and every bucket that is shown is exact.** The time of a row is
the first ten characters of its date for a day and the first seven for a month. Before thinning
there is one bucket for each time, earliest first; every row with a date is counted in one of
them, and each has the count and the sums of the rows of its time. If there are too many, some of
them are shown as they are, the first and the last among them. They are picked in machine words,
whose products fit for up to `2 ^ 58` buckets; more are not in an address space of `2 ^ 64` bytes. -/
theorem byTime_exact (rows : List Row) (column : String) (measures : List String)
    (g : Granularity) :
    let all := timeBuckets rows column measures g
    let table := byTime rows column measures g
    let cap := if g = .day then 48 else 24
    (∀ r, timeKey g column r =
      if (r.cell column).isMissing then none
      else some (.ofList ((r.cell column).display.toList.take (if g = .day then 10 else 7)))) ∧
    table.total = (rows.filterMap (timeKey g column)).toFinset.card ∧
    all.length = table.total ∧
    all.Pairwise (·.key < ·.key) ∧
    (∀ time, time ∈ all.map (·.key) ↔ ∃ r ∈ rows, timeKey g column r = some time) ∧
    (all.map (·.count)).sum = rows.countP (fun r => !(r.cell column).isMissing) ∧
    (∀ b ∈ all, b = .ofRows measures b.key (Bucket.rowsOf (timeKey g column) b.key rows)) ∧
    if all.length ≤ cap then table.buckets = all
    else
      table.buckets.length = cap ∧ (∀ b ∈ table.buckets, b ∈ all) ∧
      table.buckets.head? = all.head? ∧
      (all.length ≤ 2 ^ 58 → table.buckets.Sublist all ∧ table.buckets.getLast? = all.getLast?) := by
  have hperm := timeBuckets_perm rows column measures g
  have htotal : (timeBuckets rows column measures g).length =
      (rows.filterMap (timeKey g column)).toFinset.card := by
    rw [hperm.length_eq, Bucket.length_collect]
  refine ⟨timeKey_eq g column, htotal, rfl, pairwise_key_timeBuckets rows column measures g, ?_, ?_,
    ?_, ?_⟩
  · intro time
    rw [(hperm.map _).mem_iff, Bucket.keys_collect, List.mem_eraseDups, List.mem_filterMap]
  · rw [(hperm.map _).sum_eq, Bucket.sum_counts_collect, List.length_filterMap_eq_countP]
    simp only [isSome_timeKey]
  · intro b hb
    exact Bucket.eq_ofRows_of_mem_collect (hperm.mem_iff.1 hb)
  · rw [← g.cap_eq]
    have h2 := g.two_le_cap
    split
    · exact thin_of_length_le (by assumption)
    · refine ⟨?_, fun _ => mem_of_mem_thin h2, head?_thin h2, fun hlong => ?_⟩
      · rw [byTime, length_thin h2]
        omega
      · have hfit : PlacesFit g.cap (timeBuckets rows column measures g).length :=
          placesFit_of_le (by cases g <;> decide) hlong
        exact ⟨thin_sublist h2 hfit, getLast?_thin h2 hfit⟩

/-- Two rows of a month, of which one has a time, a row without a date, and a number for a date. -/
def datedRows : List Row :=
  [.ofList [("d", .text "2024-01-05 08:00"), ("x", .number 1.5)], .ofList [("x", .number 4)],
    .ofList [("d", .number 20240105), ("x", .text "n/a")],
    .ofList [("d", .text "2024-01-20"), ("x", .text "2")]]

/-- Dated rows have two months, the second one made of the digits of the number. -/
theorem byTime_exact_datedRows :
    let all := timeBuckets datedRows "d" ["x"] .month
    let table := byTime datedRows "d" ["x"] .month
    all = [⟨"2024-01", 2, [3.5]⟩, ⟨"2024010", 1, [0]⟩] ∧ table.buckets = all ∧ table.total = 2 := by
  intro all table
  obtain ⟨-, htotal, hlength, hrise, hkeys, -, hexact, hshown⟩ :=
    byTime_exact datedRows "d" ["x"] .month
  have htwo : table.total = 2 := by
    rw [htotal]
    decide +kernel
  have hbucket : ∀ b ∈ all, b = ⟨"2024-01", 2, [3.5]⟩ ∨ b = ⟨"2024010", 1, [0]⟩ := by
    intro b hb
    have htime : b.key ∈ datedRows.filterMap (timeKey .month "d") :=
      List.mem_filterMap.2 ((hkeys b.key).1 (List.mem_map_of_mem hb))
    have htimes : datedRows.filterMap (timeKey .month "d") = ["2024-01", "2024010", "2024-01"] := by
      decide +kernel
    simp only [htimes, List.mem_cons, List.not_mem_nil, or_false] at htime
    have hb' := hexact b hb
    obtain hkey | hkey | hkey := htime <;> rw [hkey] at hb'
    · exact .inl (hb'.trans (by decide +kernel))
    · exact .inr (hb'.trans (by decide +kernel))
    · exact .inl (hb'.trans (by decide +kernel))
  have hfew : all.length ≤ 24 := (hlength.trans htwo).le.trans (by decide)
  refine ⟨?_, (if_pos hfew).mp hshown, htwo⟩
  obtain ⟨b, c, hall⟩ := List.length_eq_two.1 (hlength.trans htwo)
  have hb : b ∈ timeBuckets datedRows "d" ["x"] .month := by simp [hall]
  have hc : c ∈ timeBuckets datedRows "d" ["x"] .month := by simp [hall]
  have hbc : b.key < c.key := by simpa [hall] using hrise
  -- of two buckets with different keys the earlier one is first
  obtain rfl | rfl := hbucket b hb <;> obtain rfl | rfl := hbucket c hc
  · exact absurd hbc (lt_irrefl _)
  · exact hall
  · exact absurd hbc (by decide)
  · exact absurd hbc (lt_irrefl _)

end Tabular
