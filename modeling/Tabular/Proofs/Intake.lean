import Tabular.Intake.Csv
import Tabular.Intake.Spreadsheet
import Tabular.Proofs.Header
import Tabular.Proofs.Row

/-!
# Tables as they are read

* `Filled`: a table with distinct columns whose rows have a cell in every column and in no
  other, and no number that is not finite.
* `filled_of_readCsv` and `filled_of_readWorkbook`: **every table that is read is filled.**
* `Ingested`: the tables that one file gives.
-/

namespace Tabular

variable {columns : List String} {rows : List Row} {t : Table} {tables : List Table}

/-- **A table as it is read**: distinct columns, in which every row has its cells. -/
structure Filled (columns : List String) (rows : List Row) : Prop where
  nodup : columns.Nodup
  names : ∀ r ∈ rows, ∀ n, n ∈ r.names ↔ n ∈ columns
  finite : ∀ r ∈ rows, r.Finite

/-- Rows that are read off the columns, one cell for each. -/
theorem filled_of_cells (nodup : columns.Nodup)
    (h : ∀ r ∈ rows, ∃ cells : List Cell, columns.length = cells.length ∧
      (∀ c ∈ cells, c.Finite) ∧ r = .ofList (columns.zip cells)) : Filled columns rows := by
  refine ⟨nodup, ?_, ?_⟩
  · intro r hr n
    obtain ⟨cells, hlen, -, rfl⟩ := h r hr
    exact Row.mem_names_zip hlen
  · intro r hr
    obtain ⟨cells, -, hfin, rfl⟩ := h r hr
    exact Row.finite_ofList fun e he => hfin e.2 (List.of_mem_zip he).2

/-! ## Delimited files -/

theorem Cell.finite_ofField (field : String) : (ofField field).Finite := by
  unfold ofField
  dsimp only
  split
  · exact finite_empty
  · split
    · split
      · exact finite_number (by assumption)
      · exact finite_text _
    · exact finite_text _

/-- A record gives one cell for each column. -/
theorem recordRow?_eq_some {fields : List String} {r : Row}
    (h : recordRow? columns fields = some r) :
    columns.length = fields.length ∧ r = .ofList (columns.zip (fields.map Cell.ofField)) := by
  unfold recordRow? at h
  split at h
  · cases h
  · rename_i hn
    simp only [Bool.or_eq_true, not_or, bne_iff_ne, ne_eq, not_not] at hn
    exact ⟨hn.2.symm, (Option.some.inj h).symm⟩

theorem filled_of_readCsv {name : String} {bytes : List UInt8} (h : readCsv name bytes = .ok t) :
    Filled t.columns t.rows := by
  unfold readCsv at h
  split at h
  · cases h
    exact ⟨.nil, nofun, nofun⟩
  · rename_i header records _
    split at h
    · cases h
    · rename_i headers _
      dsimp only at h
      split at h
      · cases h
      · cases h
        refine filled_of_cells (nodup_cleanHeaders headers) fun r hr => ?_
        obtain ⟨fields, -, hf⟩ := List.mem_filterMap.1 hr
        obtain ⟨hlen, rfl⟩ := recordRow?_eq_some hf
        refine ⟨fields.map Cell.ofField, by rw [List.length_map, hlen], ?_, rfl⟩
        intro c hc
        obtain ⟨field, -, rfl⟩ := List.mem_map.1 hc
        exact Cell.finite_ofField field

/-! ## Workbooks -/

theorem finite_dateOrText (s : String) : (dateOrText s).Finite := by
  unfold dateOrText
  split
  · exact Cell.finite_empty
  · exact Cell.finite_text _

theorem GridCell.finite_toCell (c : GridCell) : c.toCell.Finite := by
  unfold toCell
  cases c with
  | empty => exact Cell.finite_empty
  | number x =>
    dsimp only
    split
    · exact Cell.finite_number (by assumption)
    · exact Cell.finite_text _
  | serial x =>
    dsimp only
    cases dateOfSerial? x with
    | none => exact Cell.finite_empty
    | some d => exact Cell.finite_text _
  | string s | isoDate s => exact finite_dateOrText s
  | bool b => exact Cell.finite_text _
  | error code => exact Cell.finite_text code

theorem length_cutRow {start stop : Nat} {row : List GridCell} :
    (cutRow start stop row).length = stop - start := by
  unfold cutRow
  rw [List.length_map, List.length_range]

/-- The rows of the rectangle around the values have one length. -/
theorem Grid.exists_length_trim (g : Grid) : ∃ n, ∀ row ∈ g.trim, row.length = n := by
  unfold trim
  dsimp only
  split
  · exact ⟨0, nofun⟩
  · exact ⟨_, List.forall_mem_map.2 fun row _ => length_cutRow⟩

theorem filled_of_table? {w : Worksheet} (h : w.table? = some t) : Filled t.columns t.rows := by
  unfold Worksheet.table? at h
  obtain ⟨g, -, h⟩ := Option.bind_eq_some_iff.1 h
  obtain ⟨n, hn⟩ := g.exists_length_trim
  split at h
  · cases h
  · rename_i header rows htrim
    rw [htrim, List.forall_mem_cons] at hn
    dsimp only at h
    split at h
    · cases h
    · cases h
      refine filled_of_cells (nodup_cleanHeaders _) fun r hr => ?_
      obtain ⟨row, hrow, rfl⟩ := List.mem_map.1 hr
      -- the header and the rows are cut to one length
      have hlen : row.length = n := hn.2 row (List.mem_of_mem_filter hrow)
      refine ⟨row.map GridCell.toCell, ?_, ?_, rfl⟩
      · rw [length_cleanHeaders, List.length_map, List.length_map, hn.1, hlen]
      · intro c hc
        obtain ⟨x, -, rfl⟩ := List.mem_map.1 hc
        exact x.finite_toCell

theorem filled_of_readWorkbook {sheets : List Worksheet} (h : readWorkbook sheets = .ok tables) :
    ∀ t ∈ tables, Filled t.columns t.rows := by
  have htables : tables = sheets.filterMap Worksheet.table? := by
    unfold readWorkbook at h
    split at h
    · cases h
    · exact (Except.ok.inj h).symm
  intro t ht
  rw [htables] at ht
  obtain ⟨w, -, hw⟩ := List.mem_filterMap.1 ht
  exact filled_of_table? hw

/-! ## Files -/

/-- **The tables that a file gives**: one for delimited text, one for each sheet of a
workbook that has data. -/
inductive Ingested : List Table → Prop where
  | csv {name : String} {bytes : List UInt8} {t : Table} (h : readCsv name bytes = .ok t) :
      Ingested [t]
  | workbook {sheets : List Worksheet} {tables : List Table}
      (h : readWorkbook sheets = .ok tables) : Ingested tables

theorem Ingested.filled (h : Ingested tables) : ∀ t ∈ tables, Filled t.columns t.rows := by
  cases h with
  | csv h =>
    rw [List.forall_mem_singleton]
    exact filled_of_readCsv h
  | workbook h => exact filled_of_readWorkbook h

end Tabular
