import Mathlib.Data.List.Forall2
import Tabular.Aggregate.Category
import Tabular.Aggregate.Trend
import Tabular.Proofs.Aggregate.Trend
import Tabular.Proofs.Delimited.File
import Tabular.Proofs.Row

/-!
# Tables of buckets are read back

A table of buckets is written as delimited text, and reading that text gives a table with one row
for each bucket. Nothing is lost, whatever characters the dimension, the measures and the keys
have.

* `Aggregated` are the tables that rows are grouped into. Each of their buckets has one sum for
  each measure, so their records have one width.
* `trimmed_toString_nat`: a count is not blank, so no bucket is passed over.
* `Aggregated.readCsv_delimited`: **what is read back are the buckets.**
-/

namespace Tabular

variable {b : Breakdown} {rows : List Row} {measures : List String}

/-! ## The tables -/

/-- **A table of buckets**, by time or by category. -/
inductive Aggregated : Breakdown → Prop where
  | byTime (rows : List Row) (column : String) (measures : List String) (g : Granularity) :
      Aggregated (byTime rows column measures g)
  | byCategory (rows : List Row) (column : String) (measures : List String) :
      Aggregated (byCategory rows column measures)

theorem Bucket.length_sums_of_mem_collect {key? : Row → Option String} {b : Bucket}
    (h : b ∈ Bucket.collect key? measures rows) : b.sums.length = measures.length := by
  rw [Bucket.eq_ofRows_of_mem_collect h, Bucket.ofRows, List.length_map]

/-- Every bucket has a sum for each measure. -/
theorem Aggregated.length_sums (h : Aggregated b) :
    ∀ bucket ∈ b.buckets, bucket.sums.length = b.measures.length := by
  intro bucket hb
  cases h with
  | byTime rows column measures g =>
    have hall : bucket ∈ timeBuckets rows column measures g := mem_of_mem_thin g.two_le_cap hb
    exact Bucket.length_sums_of_mem_collect ((List.mergeSort_perm _ _).mem_iff.1 hall)
  | byCategory rows column measures =>
    have hall := List.mem_of_mem_take hb
    exact Bucket.length_sums_of_mem_collect ((List.mergeSort_perm _ _).mem_iff.1 hall)

/-! ## Writing -/

/-- The fields of a bucket are as many as the headers. -/
theorem Aggregated.length_fields (h : Aggregated b) : ∀ fields ∈ b.buckets.map Bucket.fields,
    fields.length = (b.dimension :: "Count" :: b.measures).length := by
  rw [List.forall_mem_map]
  intro bucket hb
  have hsums := h.length_sums bucket hb
  simp [Bucket.fields, hsums]

/-- A table of buckets is written. -/
theorem Aggregated.delimited_eq (h : Aggregated b) (hm : b.measures ≠ []) :
    b.delimited = .ok (.ofList
      (((b.dimension :: "Count" :: b.measures) :: b.buckets.map Bucket.fields).flatMap
        Delimited.record)) := by
  unfold Breakdown.delimited
  rw [if_neg (by simpa using hm), Delimited.write_of_width h.length_fields]

/-! ## Reading -/

/-- A count is not blank. -/
theorem trimmed_toString_nat (n : Nat) : (trimmed (toString n)).isEmpty = false := by
  obtain ⟨c, hc⟩ := List.exists_mem_of_ne_nil _ (Nat.toDigits_ne_nil (n := n) (b := 10))
  have htext : c ∈ (toString n).toList := by
    simpa using hc
  have htrim := trim_ne_nil htext (solid_toString n c htext)
  simpa [trimmed, String.isEmpty_iff] using htrim

/-- **Reading a table of buckets back loses nothing** but what is rounded: a sum is read as it was
written, to the nearest hundredth in doubles. -/
theorem Aggregated.readCsv_delimited (h : Aggregated b) (hm : b.measures ≠ [])
    (hd : b.dimension.toList.head? ≠ some '\ufeff') (name : String) :
    ∃ text table, b.delimited = .ok text ∧ readCsv name text.toUTF8.data.toList = .ok table ∧
      table.name = name ∧
      table.columns = cleanHeaders (b.dimension :: "Count" :: b.measures) ∧
      List.Forall₂ (fun (bucket : Bucket) row => (∀ n, n ∈ row.names ↔ n ∈ table.columns) ∧
          table.columns.map row.cell = Cell.ofField bucket.key ::
            Cell.ofField (toString bucket.count) ::
            bucket.sums.map fun s => Cell.ofField (decimal ((s * 100).round / 100)))
        b.buckets table.rows := by
  let columns := cleanHeaders (b.dimension :: "Count" :: b.measures)
  have hwidth : ∀ bucket ∈ b.buckets, bucket.fields.length = columns.length := by
    intro bucket hb
    rw [h.length_fields _ (List.mem_map_of_mem hb), length_cleanHeaders]
  -- the count of a bucket is never blank, so no bucket is passed over
  have hrows : (b.buckets.map Bucket.fields).filterMap (recordRow? columns) =
      b.buckets.map fun bucket => .ofList (columns.zip (bucket.fields.map Cell.ofField)) := by
    rw [List.filterMap_map, ← List.filterMap_eq_map]
    refine List.filterMap_congr ?_
    intro bucket hb
    have hcount : toString bucket.count ∈ bucket.fields := by
      simp [Bucket.fields]
    exact recordRow?_of_mem hcount (trimmed_toString_nat _) (hwidth bucket hb)
  have hread := readCsv_write name (List.cons_ne_nil "Count" b.measures) h.length_fields hd
  rw [hrows] at hread
  refine ⟨_, _, h.delimited_eq hm, hread, rfl, rfl, ?_⟩
  rw [List.forall₂_map_right_iff, List.forall₂_same]
  intro bucket hb
  have hcells : columns.length = (bucket.fields.map Cell.ofField).length := by
    rw [List.length_map, hwidth bucket hb]
  refine ⟨fun n => Row.mem_names_zip hcells, ?_⟩
  rw [Row.map_cell_zip (nodup_cleanHeaders _) hcells]
  simp [Bucket.fields, roundHundredths]

/-- Commas, quotes and line breaks in a dimension, in a measure and in a key. -/
theorem readCsv_delimited_quoted :
    let row := Row.ofList [("a,b", .text " x\r\n\"y\" "), ("\"m\"", .text "1.5")]
    let b := byCategory [row] "a,b" ["\"m\""]
    b.measures ≠ [] ∧ b.dimension.toList.head? ≠ some '\ufeff' ∧
      ∃ text table, b.delimited = .ok text ∧ readCsv "t" text.toUTF8.data.toList = .ok table ∧
        table.name = "t" ∧
        table.columns = cleanHeaders (b.dimension :: "Count" :: b.measures) ∧
        List.Forall₂ (fun (bucket : Bucket) row => (∀ n, n ∈ row.names ↔ n ∈ table.columns) ∧
            table.columns.map row.cell = Cell.ofField bucket.key ::
              Cell.ofField (toString bucket.count) ::
              bucket.sums.map fun s => Cell.ofField (decimal ((s * 100).round / 100)))
          b.buckets table.rows := by
  intro row b
  have hm : b.measures ≠ [] := List.cons_ne_nil _ _
  have hd : b.dimension.toList.head? ≠ some '\ufeff' := by
    show "a,b".toList.head? ≠ _
    decide
  exact ⟨hm, hd, (Aggregated.byCategory [row] "a,b" ["\"m\""]).readCsv_delimited hm hd "t"⟩

end Tabular
