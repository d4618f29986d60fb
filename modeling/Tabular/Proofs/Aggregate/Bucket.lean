import Mathlib
import Tabular.Aggregate.Bucket
import Tabular.Proofs.Distinct

/-!
# Buckets are exact

Rows are put into buckets one after another, and a bucket keeps only running sums. What comes out
is what the rows of a key give when they are taken together.

* `Bucket.ofRows` is the bucket of given rows: their count, and the sums of their measures from
  left to right.
* `groups` are the buckets of all keys, in the order in which the keys first occur. `place_groups`
  is one more row, and `collect_eq` all of them: **collecting rows gives exact buckets.**
* `nodup_keys_collect`, `length_collect` and `sum_counts_collect`: no key comes twice, there are as
  many buckets as keys, and every row with a key is counted once.
-/

namespace Tabular.Bucket

variable {key? : Row → Option String} {measures : List String} {rows : List Row} {key : String}

/-! ## The bucket of given rows -/

/-- The rows with a key. -/
def rowsOf (key? : Row → Option String) (key : String) (rows : List Row) : List Row :=
  rows.filter fun r => key? r = some key

/-- The sum of a measure from left to right, over the cells that are numbers. -/
def total (rows : List Row) (measure : String) : Float :=
  (rows.filterMap fun r => (r.cell measure).toNumber?).foldl (· + ·) 0

/-- **The bucket of given rows**: their count, and the sum of each measure. -/
def ofRows (measures : List String) (key : String) (rows : List Row) : Bucket :=
  ⟨key, rows.length, measures.map (total rows)⟩

theorem total_concat (rows : List Row) (r : Row) (m : String) :
    total (rows ++ [r]) m = addCell (total rows m) (r.cell m) := by
  unfold total addCell
  rw [List.filterMap_append, List.foldl_append, List.filterMap_cons]
  cases (r.cell m).toNumber? <;> rfl

theorem fresh_eq (measures : List String) (key : String) :
    fresh measures key = ofRows measures key [] :=
  rfl

/-- A row that is added is the last one of the bucket. -/
theorem add_ofRows (measures : List String) (key : String) (rows : List Row) (r : Row) :
    (ofRows measures key rows).add measures r = ofRows measures key (rows ++ [r]) := by
  have hsums : List.zipWith (fun total m => addCell total (r.cell m)) (measures.map (total rows))
      measures = measures.map (total (rows ++ [r])) := by
    rw [List.zipWith_map_left, List.zipWith_self]
    exact List.map_congr_left fun m _ => (total_concat rows r m).symm
  simp only [add, ofRows, hsums, List.length_append, List.length_singleton]

theorem rowsOf_concat (key? : Row → Option String) (key : String) (rows : List Row) (r : Row) :
    rowsOf key? key (rows ++ [r]) =
      if key? r = some key then rowsOf key? key rows ++ [r] else rowsOf key? key rows := by
  unfold rowsOf
  rw [List.filter_append]
  by_cases h : key? r = some key <;> simp [h]

/-- A key that does not occur has no rows. -/
theorem rowsOf_eq_nil (h : key ∉ rows.filterMap key?) : rowsOf key? key rows = [] := by
  rw [rowsOf, List.filter_eq_nil_iff]
  intro r hr hk
  exact h (List.mem_filterMap.2 ⟨r, hr, by simpa using hk⟩)

/-! ## Collecting rows -/

/-- A row goes to the bucket of its key, or to a new one at the end. -/
theorem place_map {keys : List String} (hnodup : keys.Nodup) {f : String → Bucket}
    (hf : ∀ k, (f k).key = k) (r : Row) :
    place measures key r (keys.map f) =
      if key ∈ keys then keys.map fun k => if k = key then (f k).add measures r else f k
      else keys.map f ++ [(fresh measures key).add measures r] := by
  induction keys with
  | nil => rfl
  | cons k keys ih =>
    obtain ⟨hk, hnodup⟩ := List.nodup_cons.1 hnodup
    rw [List.map_cons, place, hf]
    by_cases h : k = key
    · subst h
      -- the buckets behind it have other keys
      have hrest :
          (keys.map fun j => if j = k then (f j).add measures r else f j) = keys.map f := by
        refine List.map_congr_left fun j hj => if_neg ?_
        rintro rfl
        exact hk hj
      simp [hrest]
    · have h' : key ≠ k := Ne.symm h
      rw [if_neg h, ih hnodup]
      by_cases hm : key ∈ keys <;> simp [hm, h, h']

theorem collect_concat (key? : Row → Option String) (measures : List String) (rows : List Row)
    (r : Row) :
    collect key? measures (rows ++ [r]) = (key? r).elim (collect key? measures rows)
      (place measures · r (collect key? measures rows)) := by
  unfold collect
  rw [List.foldl_append, List.foldl_cons, List.foldl_nil]

/-- **The exact buckets of some rows**: one for every key, in the order in which the keys first
occur. -/
def groups (key? : Row → Option String) (measures : List String) (rows : List Row) : List Bucket :=
  (rows.filterMap key?).eraseDups.map fun k => ofRows measures k (rowsOf key? k rows)

/-- A row without a key is in no bucket. -/
theorem groups_concat_of_none {r : Row} (hr : key? r = none) :
    groups key? measures (rows ++ [r]) = groups key? measures rows := by
  have hkeys : (rows ++ [r]).filterMap key? = rows.filterMap key? := by
    simp [hr]
  unfold groups
  rw [hkeys]
  refine List.map_congr_left fun k _ => ?_
  rw [rowsOf_concat, hr, if_neg nofun]

/-- **Placing a row keeps buckets exact.** -/
theorem place_groups {r : Row} (hr : key? r = some key) :
    place measures key r (groups key? measures rows) = groups key? measures (rows ++ [r]) := by
  have hkeys : (rows ++ [r]).filterMap key? = rows.filterMap key? ++ [key] := by
    simp [hr]
  unfold groups
  rw [place_map (nodup_eraseDups _) (fun _ => rfl), hkeys, eraseDups_concat]
  by_cases hm : key ∈ rows.filterMap key?
  · rw [if_pos (List.mem_eraseDups.2 hm), if_pos hm]
    refine List.map_congr_left fun k _ => ?_
    rw [rowsOf_concat, hr, add_ofRows]
    by_cases hk : k = key
    · rw [if_pos hk, if_pos (congrArg some hk.symm)]
    · rw [if_neg hk, if_neg (by simpa using Ne.symm hk)]
  · rw [if_neg (mt List.mem_eraseDups.1 hm), if_neg hm, List.map_append]
    congr 1
    · refine List.map_congr_left fun k hk => ?_
      have hne : key ≠ k := by
        rintro rfl
        exact hm (List.mem_eraseDups.1 hk)
      rw [rowsOf_concat, hr, if_neg (by simpa using hne)]
    · -- the new bucket has this row only
      rw [fresh_eq, add_ofRows, List.map_singleton, rowsOf_concat, hr, if_pos rfl, rowsOf_eq_nil hm]

/-- **Collecting rows gives exact buckets.** -/
theorem collect_eq (key? : Row → Option String) (measures : List String) (rows : List Row) :
    collect key? measures rows = groups key? measures rows := by
  induction rows using List.reverseRecOn with
  | nil => rfl
  | append_singleton rows r ih =>
    rw [collect_concat, ih]
    cases hr : key? r with
    | none => exact (groups_concat_of_none hr).symm
    | some key => exact place_groups hr

/-! ## What the buckets are -/

/-- Every bucket is the one of all rows of its key. -/
theorem eq_ofRows_of_mem_collect {b : Bucket} (h : b ∈ collect key? measures rows) :
    b = ofRows measures b.key (rowsOf key? b.key rows) := by
  rw [collect_eq, groups] at h
  obtain ⟨k, -, rfl⟩ := List.mem_map.1 h
  rfl

theorem keys_collect (key? : Row → Option String) (measures : List String) (rows : List Row) :
    (collect key? measures rows).map (·.key) = (rows.filterMap key?).eraseDups := by
  rw [collect_eq, groups, List.map_map]
  exact List.map_id _

/-- No key comes twice. -/
theorem nodup_keys_collect (key? : Row → Option String) (measures : List String)
    (rows : List Row) : ((collect key? measures rows).map (·.key)).Nodup := by
  rw [keys_collect]
  exact nodup_eraseDups _

/-- There are as many buckets as keys. -/
theorem length_collect (key? : Row → Option String) (measures : List String) (rows : List Row) :
    (collect key? measures rows).length = (rows.filterMap key?).toFinset.card := by
  rw [← length_eraseDups, ← keys_collect key? measures, List.length_map]

/-- The rows of a key are as many as it occurs. -/
theorem length_rowsOf (key? : Row → Option String) (key : String) (rows : List Row) :
    (rowsOf key? key rows).length = (rows.filterMap key?).count key := by
  rw [rowsOf, List.count_filterMap, List.countP_eq_length_filter]
  simp only [beq_eq_decide]

/-- **Every row with a key is counted once.** -/
theorem sum_counts_collect (key? : Row → Option String) (measures : List String)
    (rows : List Row) :
    ((collect key? measures rows).map (·.count)).sum = (rows.filterMap key?).length := by
  have hcounts : (collect key? measures rows).map (·.count) =
      (rows.filterMap key?).eraseDups.map ((rows.filterMap key?).count ·) := by
    rw [collect_eq, groups, List.map_map]
    exact List.map_congr_left fun k _ => length_rowsOf key? k rows
  rw [hcounts, sum_count_eraseDups]

end Tabular.Bucket
