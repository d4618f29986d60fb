import Tabular.Aggregate.GroundTruth
import Tabular.Proofs.Related

/-!
# Rows that agree on some columns

What is computed from some columns of a table is the same for tables that agree on these columns
row by row, whatever the others hold.

* `Row.AgreeOn`: rows with the same cells in the columns that are shown.
* `summarize_congr`: the summary of a column that is shown is the same.
* `collect_congr`: so are buckets whose key and measures are shown, and with them the tables of
  `byTime_congr` and `byCategory_congr`.
* `report` is the text of the exact sums, of given measures, dates and categories, and
  `report_congr`: **the text is the same when all of these are shown.**
-/

namespace Tabular

/-- Rows with the same cells in the columns that are shown. -/
def Row.AgreeOn (shown : String → Prop) (r s : Row) : Prop :=
  ∀ name, shown name → r.cell name = s.cell name

variable {shown : String → Prop} {r s : Row} {rows rows' : List Row} {column : String}
  {measures : List String}

/-! ## Profiles -/

theorem summarize_congr (h : List.Forall₂ (Row.AgreeOn shown) rows rows') (policy : Inference)
    (hcolumn : shown column) : summarize policy rows column = summarize policy rows' column := by
  have hcells : presentCells rows column = presentCells rows' column := by
    unfold presentCells
    rw [map_eq_of_rel h fun _ _ hrs => hrs column hcolumn]
  unfold summarize
  rw [hcells, h.length_eq]

/-! ## Buckets -/

/-- A bucket sees no more of a row than its measures. -/
theorem add_congr (h : r.AgreeOn shown s) (hmeasures : ∀ m ∈ measures, shown m) (b : Bucket) :
    b.add measures r = b.add measures s := by
  have hcells : measures.map r.cell = measures.map s.cell :=
    List.map_congr_left fun m hm => h m (hmeasures m hm)
  have hsums : List.zipWith (fun total m => Bucket.addCell total (r.cell m)) b.sums measures =
      List.zipWith (fun total m => Bucket.addCell total (s.cell m)) b.sums measures := by
    rw [← List.zipWith_map_right, hcells, List.zipWith_map_right]
  unfold Bucket.add
  rw [hsums]

theorem place_congr (h : r.AgreeOn shown s) (hmeasures : ∀ m ∈ measures, shown m) (key : String)
    (bs : List Bucket) : Bucket.place measures key r bs = Bucket.place measures key s bs := by
  induction bs with
  | nil =>
    show [_] = [_]
    rw [add_congr h hmeasures]
  | cons b bs ih =>
    show (if b.key = key then _ else _) = if b.key = key then _ else _
    rw [add_congr h hmeasures, ih]

/-- **Rows that agree on the key and on the measures give the same buckets.** -/
theorem collect_congr {key? : Row → Option String}
    (h : List.Forall₂ (Row.AgreeOn shown) rows rows')
    (hkey : ∀ r s, r.AgreeOn shown s → key? r = key? s) (hmeasures : ∀ m ∈ measures, shown m) :
    Bucket.collect key? measures rows = Bucket.collect key? measures rows' := by
  refine foldl_eq_of_rel h ?_ []
  intro bs r s hrs
  rw [hkey r s hrs]
  cases key? s with
  | none => rfl
  | some key => exact place_congr hrs hmeasures key bs

theorem fitting_congr (h : List.Forall₂ (Row.AgreeOn shown) rows rows') (hcolumn : shown column) :
    Granularity.fitting rows column = Granularity.fitting rows' column := by
  unfold Granularity.fitting
  rw [filterMap_eq_of_rel h fun r s hrs => congrArg Granularity.day.key? (hrs column hcolumn)]

theorem byTime_congr (h : List.Forall₂ (Row.AgreeOn shown) rows rows') (hcolumn : shown column)
    (hmeasures : ∀ m ∈ measures, shown m) (g : Granularity) :
    byTime rows column measures g = byTime rows' column measures g := by
  have hkey (r s : Row) (hrs : r.AgreeOn shown s) :
      g.key? (r.cell column) = g.key? (s.cell column) :=
    congrArg g.key? (hrs column hcolumn)
  unfold byTime timeBuckets
  rw [collect_congr h hkey hmeasures]

theorem byCategory_congr (h : List.Forall₂ (Row.AgreeOn shown) rows rows')
    (hcolumn : shown column) (hmeasures : ∀ m ∈ measures, shown m) :
    byCategory rows column measures = byCategory rows' column measures := by
  have hkey (r s : Row) (hrs : r.AgreeOn shown s) :
      some (r.cell column).category = some (s.cell column).category :=
    congrArg (fun c => some c.category) (hrs column hcolumn)
  unfold byCategory categoryBuckets
  rw [collect_congr h hkey hmeasures]

/-! ## Reports -/

/-- The text of the exact sums of some measures, over time and by some categories. -/
def report (rows : List Row) (measures : List String) (date : Option String)
    (categories : List String) : Except Delimited.Uneven String :=
  if measures.isEmpty then .ok "No numeric variables found for aggregation."
  else do
    let trend ← trendSection rows measures date
    let groups ← categories.mapM fun c => titled "Group" c (byCategory rows c measures)
    return groundTruthHead ++ trend ++ concat groups

theorem groundTruth_eq_report (rows : List Row) (summaries : List Summary) (scope : Scope)
    (ceiling : Nat) :
    groundTruth rows summaries scope ceiling =
      report rows ((columnsOf .number summaries).filter scope.allows)
        (primaryDate? scope (columnsOf .date summaries))
        ((summaries.filter fun s => s.isCategorical ceiling && scope.allows s.name).map (·.name)) :=
  rfl

/-- **A report shows no more than its measures, its dates and its categories.** -/
theorem report_congr {date : Option String} {categories : List String}
    (h : List.Forall₂ (Row.AgreeOn shown) rows rows') (hmeasures : ∀ m ∈ measures, shown m)
    (hdate : ∀ column ∈ date, shown column) (hcategories : ∀ c ∈ categories, shown c) :
    report rows measures date categories = report rows' measures date categories := by
  have htrend : trendSection rows measures date = trendSection rows' measures date := by
    unfold trendSection
    cases date with
    | none => rfl
    | some column =>
      have hcolumn : shown column := hdate column rfl
      simp only [fitting_congr h hcolumn, byTime_congr h hcolumn hmeasures]
  have htables : (categories.map fun c => titled "Group" c (byCategory rows c measures)) =
      categories.map fun c => titled "Group" c (byCategory rows' c measures) := by
    refine List.map_congr_left fun c hc => ?_
    rw [byCategory_congr h (hcategories c hc) hmeasures]
  have hgroups : (categories.mapM fun c => titled "Group" c (byCategory rows c measures)) =
      categories.mapM fun c => titled "Group" c (byCategory rows' c measures) := by
    simpa only [List.mapM_map, Function.id_comp] using congrArg (List.mapM id) htables
  unfold report
  rw [htrend, hgroups]

end Tabular
