import Mathlib
import Tabular.Proofs.Aggregate.Trend

/-!
# Days and months

Months are collected from the rows themselves and not from the days. They agree all the same, since
the month of a cell is a function of its day, for cells of any kind.

* `Bucket.mem_keys_coarser` and `Bucket.count_coarser`: buckets by a function of the keys are unions
  of buckets.
* `fitting_eq_day_iff`: days are taken exactly when none of them is left out.
* `granularities_agree`: **a table by day shows every day, and months are made of days.**
-/

namespace Tabular

variable {rows : List Row} {column key : String} {measures : List String}

/-! ## Coarser keys -/

namespace Bucket

variable {fine coarse : Row → Option String} {f : String → String} {b : Bucket}

/-- The coarser keys are those that the finer ones have. -/
theorem mem_keys_coarser (h : ∀ r, coarse r = (fine r).map f) :
    key ∈ (collect coarse measures rows).map (·.key) ↔
      key ∈ (collect fine measures rows).map fun b => f b.key := by
  have hfine : (collect fine measures rows).map (fun b => f b.key) =
      (rows.filterMap fine).eraseDups.map f := by
    rw [← keys_collect fine measures, List.map_map, Function.comp_def]
  rw [keys_collect, List.mem_eraseDups, hfine, funext h]
  simp only [List.mem_map, List.mem_eraseDups, List.mem_filterMap, Option.map_eq_some_iff]
  constructor
  · rintro ⟨r, hr, k, hk, rfl⟩
    exact ⟨k, ⟨r, hr, hk⟩, rfl⟩
  · rintro ⟨k, ⟨r, hr, hk⟩, rfl⟩
    exact ⟨r, hr, k, hk, rfl⟩

/-- **The rows of a coarser key are those of its finer keys.** -/
theorem count_coarser (h : ∀ r, coarse r = (fine r).map f)
    (hb : b ∈ collect coarse measures rows) :
    b.count =
      (((collect fine measures rows).filter fun d => f d.key = b.key).map (·.count)).sum := by
  have hcoarse : b.count = (rows.filterMap fine).countP (f · = b.key) := by
    have hcount := congrArg Bucket.count (eq_ofRows_of_mem_collect hb)
    rw [hcount, ofRows, length_rowsOf, funext h, ← List.map_filterMap, List.count_eq_countP,
      List.countP_map]
    simp only [Function.comp_def, beq_eq_decide]
  have hfine : ((collect fine measures rows).filter fun d => f d.key = b.key).map (·.count) =
      ((rows.filterMap fine).eraseDups.filter (f · = b.key)).map
        ((rows.filterMap fine).count ·) := by
    rw [collect_eq, groups, List.filter_map, List.map_map]
    exact List.map_congr_left fun k _ => length_rowsOf fine k rows
  rw [hcoarse, hfine, sum_count_eraseDups_filter]

end Bucket

/-! ## Days and months -/

/-- The month of a day. -/
def monthOf (day : String) : String := .ofList (day.toList.take 7)

/-- The month of a cell is that of its day. -/
theorem key?_month (c : Cell) :
    Granularity.month.key? c = (Granularity.day.key? c).map monthOf := by
  unfold Granularity.key?
  cases c.isMissing with
  | true => rfl
  | false =>
    simp only [Bool.false_eq_true, if_false, Option.map_some, monthOf, String.toList_ofList,
      List.take_take]
    rfl

/-- Nothing is left out of a list that is short enough. -/
theorem isReduced_byTime (rows : List Row) (column : String) (measures : List String)
    (g : Granularity) :
    (byTime rows column measures g).isReduced = false ↔
      (timeBuckets rows column measures g).length ≤ g.cap := by
  have hshown : (byTime rows column measures g).buckets.length =
      min (timeBuckets rows column measures g).length g.cap := length_thin g.two_le_cap
  have htotal : (byTime rows column measures g).total =
      (timeBuckets rows column measures g).length := rfl
  rw [Breakdown.isReduced, decide_eq_false_iff_not, hshown, htotal]
  omega

/-- **Days are taken exactly when none of them is left out.** -/
theorem fitting_eq_day_iff (rows : List Row) (column : String) (measures : List String) :
    Granularity.fitting rows column = .day ↔
      (byTime rows column measures .day).isReduced = false := by
  have hlength : (timeBuckets rows column measures .day).length =
      (rows.filterMap (timeKey .day column)).eraseDups.length := by
    rw [(timeBuckets_perm rows column measures .day).length_eq,
      ← Bucket.keys_collect _ measures, List.length_map]
  have hfitting : Granularity.fitting rows column =
      if (rows.filterMap (timeKey .day column)).eraseDups.length ≤ Granularity.day.cap
      then .day else .month := rfl
  rw [isReduced_byTime, hlength, hfitting]
  split
  · exact iff_of_true rfl (by assumption)
  · exact iff_of_false nofun (by assumption)

/-- **Days are taken exactly when the table by day shows them all, and months are made of days.**
Before thinning the months are those of the days, and each month counts as many rows as all of its
days do. -/
theorem granularities_agree (rows : List Row) (column : String) (measures : List String) :
    let table := byTime rows column measures .day
    let days := timeBuckets rows column measures .day
    let months := timeBuckets rows column measures .month
    (Granularity.fitting rows column = .day ↔ table.isReduced = false) ∧
      (table.isReduced = false ↔ table.buckets = days) ∧
      (∀ month, month ∈ months.map (·.key) ↔ month ∈ days.map fun d => monthOf d.key) ∧
      ∀ b ∈ months, b.count = ((days.filter fun d => monthOf d.key = b.key).map (·.count)).sum := by
  have hkeys (r : Row) : timeKey .month column r = (timeKey .day column r).map monthOf :=
    key?_month (r.cell column)
  have hdays := timeBuckets_perm rows column measures .day
  have hmonths := timeBuckets_perm rows column measures .month
  refine ⟨fitting_eq_day_iff rows column measures, ?_, ?_, ?_⟩
  · rw [isReduced_byTime]
    constructor
    · exact thin_of_length_le
    · intro h
      have hlength := congrArg List.length h
      rw [byTime, length_thin Granularity.day.two_le_cap] at hlength
      omega
  · intro month
    rw [(hmonths.map _).mem_iff, (hdays.map _).mem_iff]
    exact Bucket.mem_keys_coarser hkeys
  · intro b hb
    rw [((hdays.filter _).map _).sum_eq]
    exact Bucket.count_coarser hkeys (hmonths.mem_iff.1 hb)

/-- Two days of a month, the second with a time, a number and a text too short for a month. -/
def looseDates : List Row :=
  [.ofList [("d", .text "2024-01-05")], .empty, .ofList [("d", .number 20240105)],
    .ofList [("d", .text "2024-01-20 08:00")], .ofList [("d", .text "é")]]

/-- The table of loose dates shows all days, and the month counts its two days. -/
theorem granularities_agree_looseDates :
    Granularity.fitting looseDates "d" = .day ∧
      (byTime looseDates "d" [] .day).buckets = timeBuckets looseDates "d" [] .day ∧
      ⟨"2024-01", 2, []⟩ ∈ timeBuckets looseDates "d" [] .month ∧
      2 = (((timeBuckets looseDates "d" [] .day).filter
        fun d => monthOf d.key = "2024-01").map (·.count)).sum := by
  have hwhole : (byTime looseDates "d" [] .day).isReduced = false := by
    rw [isReduced_byTime, (timeBuckets_perm _ _ _ _).length_eq]
    decide +kernel
  have hmonth : (⟨"2024-01", 2, []⟩ : Bucket) ∈ timeBuckets looseDates "d" [] .month := by
    rw [(timeBuckets_perm _ _ _ _).mem_iff]
    decide +kernel
  obtain ⟨hfitting, hshown, -, hcount⟩ := granularities_agree looseDates "d" []
  exact ⟨hfitting.2 hwhole, hshown.1 hwhole, hmonth, hcount _ hmonth⟩

end Tabular
