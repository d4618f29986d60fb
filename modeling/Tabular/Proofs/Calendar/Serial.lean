import Mathlib
import Tabular.Intake.Spreadsheet
import Tabular.Proofs.Aggregate.Trend
import Tabular.Proofs.Calendar.Written
import Tabular.Proofs.Profile

/-!
# Dates of spreadsheets

A spreadsheet stores a date as a number of days, whose fraction is the time of day.

* `Binary.value?` is the number that a double stands for; `Binary.floor_eq`: its floor is exact.
* `SerialDay v d`: `d` is the day of the serial number `v`. `serialDay_before_iff`: the days are in
  the order of the numbers.
* `toCell_serial`: **a serial number is written as its day, or is missing when the calendar ends
  before it.**
* `SerialColumn` are the columns of strict dates out of a spreadsheet. `type_serialColumn`:
  they are date columns. `pairwise_timeBuckets_serial`: their time buckets are in the order of the
  days.
* `serialCells_strict_iff`: **date cells are strict dates exactly in the years 0 to 9999.**
-/

namespace Tabular

/-! ## The floor of a double -/

/-- The number that a double stands for, if it is finite. -/
def Binary.value? : Binary → Option ℚ
  | .finite neg m q => some ((if neg then -(m : ℚ) else m) * 2 ^ q)
  | _ => none

/-- **The floor of a double is that of the number it stands for.** -/
theorem Binary.floor_eq (b : Binary) : b.floor = b.value?.map Int.floor := by
  cases b with
  | nan | infinite => rfl
  | finite neg m q =>
    have hscale : (2 : ℚ) ^ q = 2 ^ q.toNat / 2 ^ (-q).toNat := by
      rw [← zpow_natCast, ← zpow_natCast, ← zpow_sub₀ two_ne_zero]
      congr 1
      omega
    have hsigned : (if neg then -(m : ℚ) else m) = ((if neg then -(m : Int) else m : Int) : ℚ) := by
      split <;> push_cast <;> rfl
    have hvalue : (if neg then -(m : ℚ) else m) * 2 ^ q =
        (((if neg then -(m : Int) else m) * Nat.pow 2 q.toNat : Int) : ℚ) /
          (Nat.pow 2 (-q).toNat : Nat) := by
      rw [hsigned, hscale]
      push_cast [Nat.pow_eq]
      ring
    simp only [floor, value?, Option.map_some, hvalue, Rat.floor_intCast_div_natCast]
    rw [Int.fdiv_eq_ediv_of_nonneg _ (Int.natCast_nonneg _)]

/-! ## The day of a serial number -/

/-- The day of a serial number: the day zero and as many days as the floor of the number says. -/
def SerialDay (v : ℚ) (d : Date) : Prop := d.isReal = true ∧ Date.Later ⌊v⌋ serialEpoch d

variable {x y : Float} {v w : ℚ} {d e : Date} {s t : String}

theorem isReal_serialEpoch : serialEpoch.isReal = true := by decide

theorem serialDay_iff_number :
    SerialDay v d ↔ d.isReal = true ∧ d.number = serialEpoch.number + ⌊v⌋ :=
  and_congr_right fun h => Date.later_iff isReal_serialEpoch h

/-- Every number has one day. -/
theorem serialDay_iff : SerialDay v d ↔ d = Date.ofNumber (serialEpoch.number + ⌊v⌋) := by
  rw [serialDay_iff_number]
  constructor
  · rintro ⟨hreal, hnumber⟩
    rw [← hnumber, Date.ofNumber_number hreal]
  · rintro rfl
    exact ⟨Date.isReal_ofNumber _, Date.number_ofNumber _⟩

/-- The days are in the order of the numbers. -/
theorem serialDay_before_iff (hd : SerialDay v d) (he : SerialDay w e) :
    d.Before e ↔ ⌊v⌋ < ⌊w⌋ := by
  rw [← Date.number_lt_iff hd.1 he.1, (serialDay_iff_number.1 hd).2, (serialDay_iff_number.1 he).2]
  omega

/-! ## The cell of a serial number -/

/-- What is not finite is no date. -/
theorem toCell_serial_of_none (hv : (Binary.ofFloat x).value? = none) :
    (GridCell.serial x).toCell = .empty := by
  have hdate : dateOfSerial? x = none := by
    unfold dateOfSerial?
    rw [Binary.floor_eq, hv]
    rfl
  rw [GridCell.toCell, hdate]
  rfl

/-- **A serial number is written as its day, as far as the calendar goes.** -/
theorem toCell_serial (hv : (Binary.ofFloat x).value? = some v) (hd : SerialDay v d) :
    (GridCell.serial x).toCell = if d.inRange then .text d.iso else .empty := by
  have hdate : dateOfSerial? x = if d.inRange then some d else none := by
    unfold dateOfSerial?
    rw [Binary.floor_eq, hv, serialDay_iff.1 hd]
    rfl
  rw [GridCell.toCell, hdate]
  split <;> rfl

/-- A text is the written day of a finite number. -/
theorem exists_serialDay (h : (GridCell.serial x).toCell = .text s) :
    ∃ v d, (Binary.ofFloat x).value? = some v ∧ SerialDay v d ∧ s = d.iso := by
  cases hv : (Binary.ofFloat x).value? with
  | none =>
    rw [toCell_serial_of_none hv] at h
    cases h
  | some v =>
    have hd : SerialDay v (Date.ofNumber (serialEpoch.number + ⌊v⌋)) := serialDay_iff.2 rfl
    rw [toCell_serial hv hd] at h
    split at h
    · exact ⟨v, _, rfl, hd, (Cell.text.inj h).symm⟩
    · cases h

/-- **Strict dates out of a spreadsheet are in the order of their days.** -/
theorem serial_lt_iff (hx : (GridCell.serial x).toCell = .text s)
    (hy : (GridCell.serial y).toCell = .text t) (hs : isStrictDate s = true)
    (ht : isStrictDate t = true) (hv : (Binary.ofFloat x).value? = some v)
    (hw : (Binary.ofFloat y).value? = some w) : s < t ↔ ⌊v⌋ < ⌊w⌋ := by
  obtain ⟨v', d, hv', hd, rfl⟩ := exists_serialDay hx
  obtain ⟨w', e, hw', he, rfl⟩ := exists_serialDay hy
  rw [hv, Option.some.injEq] at hv'
  rw [hw, Option.some.injEq] at hw'
  subst hv' hw'
  rw [Date.iso_lt_iff hd.1 he.1 ((Date.isStrictDate_iso hd.1).1 hs)
    ((Date.isStrictDate_iso he.1).1 ht), serialDay_before_iff hd he]

/-! ## Columns -/

/-- The cells of a column are strict dates out of a spreadsheet, or empty. -/
def SerialColumn (rows : List Row) (column : String) : Prop :=
  ∀ r ∈ rows, r.cell column = .empty ∨
    ∃ x s, r.cell column = .text s ∧ (GridCell.serial x).toCell = .text s ∧ isStrictDate s = true

variable {policy : Inference} {rows : List Row} {column : String} {measures : List String}
  {g : Granularity}

/-- **A column of strict dates is a date column.** -/
theorem type_serialColumn (h : SerialColumn rows column) (hne : presentCells rows column ≠ []) :
    (summarize policy rows column).type = .date := by
  refine inferType_of_forall hne fun c hc => ?_
  obtain ⟨hpresent, r, hr, rfl⟩ := mem_presentCells.1 hc
  rcases h r hr with hempty | ⟨x, s, hcell, -, hs⟩
  · rw [hempty] at hpresent
    cases hpresent
  · rw [hcell, Cell.type, if_pos hs]

/-- The key of a row is the front of its date. -/
theorem SerialColumn.exists_of_timeKey (h : SerialColumn rows column) {r : Row} (hr : r ∈ rows)
    {key : String} (hkey : timeKey g column r = some key) :
    ∃ s, r.cell column = .text s ∧ isStrictDate s = true ∧
      key.toList = s.toList.take g.keyLength := by
  rcases h r hr with hempty | ⟨x, s, hcell, -, hs⟩
  · rw [timeKey, hempty] at hkey
    cases hkey
  · refine ⟨s, hcell, hs, ?_⟩
    rw [timeKey, hcell, Granularity.key?] at hkey
    split at hkey
    · cases hkey
    · rw [← Option.some.inj hkey, String.toList_ofList]
      rfl

/-- **The time buckets of a column of strict dates are in the order of the days.** -/
theorem pairwise_timeBuckets_serial (h : SerialColumn rows column) :
    (timeBuckets rows column measures g).Pairwise fun b c =>
      ∀ r ∈ rows, ∀ r' ∈ rows, timeKey g column r = some b.key → timeKey g column r' = some c.key →
        ∀ x y v w, r.cell column = (GridCell.serial x).toCell →
          r'.cell column = (GridCell.serial y).toCell → (Binary.ofFloat x).value? = some v →
          (Binary.ofFloat y).value? = some w → ⌊v⌋ < ⌊w⌋ := by
  refine (pairwise_key_timeBuckets rows column measures g).imp ?_
  intro b c hlt r hr r' hr' hkey hkey' x y v w hx hy hv hw
  obtain ⟨s, hcell, hs, hfront⟩ := h.exists_of_timeKey hr hkey
  obtain ⟨t, hcell', ht, hfront'⟩ := h.exists_of_timeKey hr' hkey'
  -- the keys are the fronts of the dates, and dates are in the order of their fronts
  rw [String.lt_iff_toList_lt, hfront, hfront'] at hlt
  have hst : s < t := String.lt_iff_toList_lt.2 (lt_of_take_lt hlt)
  exact (serial_lt_iff (hx.symm.trans hcell) (hy.symm.trans hcell') hs ht hv hw).1 hst

/-! ## Spreadsheets -/

/-- **The date cells of a spreadsheet are strict dates exactly in the years 0 to 9999.** A serial
number that is not finite is missing. Any other has one day, which is written unless the calendar
ends before it; what is written is strict, and read back as itself, exactly when the year has four
digits. Strict dates are in the order of their days, so columns of them are date columns, and their
time buckets are in the order of the days. -/
theorem serialCells_strict_iff (x y : Float) (rows : List Row) (column : String) :
    ((Binary.ofFloat x).value? = none → (GridCell.serial x).toCell = .empty) ∧
      (∀ v, (Binary.ofFloat x).value? = some v →
        ∃! d, SerialDay v d ∧
          (GridCell.serial x).toCell = (if d.inRange then .text d.iso else .empty) ∧
          (isStrictDate d.iso = true ↔ d.FourDigit) ∧
          (normalizeDate? d.iso = some d.iso ↔ d.FourDigit)) ∧
      (∀ s t, (GridCell.serial x).toCell = .text s → (GridCell.serial y).toCell = .text t →
        isStrictDate s = true → isStrictDate t = true →
        ∃ v w, (Binary.ofFloat x).value? = some v ∧ (Binary.ofFloat y).value? = some w ∧
          (s < t ↔ ⌊v⌋ < ⌊w⌋)) ∧
      (SerialColumn rows column →
        (presentCells rows column ≠ [] →
          ∀ policy, (summarize policy rows column).type = .date) ∧
        ∀ measures g, (timeBuckets rows column measures g).Pairwise fun b c =>
          ∀ r ∈ rows, ∀ r' ∈ rows, timeKey g column r = some b.key →
            timeKey g column r' = some c.key → ∀ x y v w,
              r.cell column = (GridCell.serial x).toCell →
              r'.cell column = (GridCell.serial y).toCell →
              (Binary.ofFloat x).value? = some v → (Binary.ofFloat y).value? = some w →
              ⌊v⌋ < ⌊w⌋) := by
  refine ⟨toCell_serial_of_none, ?_, ?_, ?_⟩
  · intro v hv
    have hd : SerialDay v (Date.ofNumber (serialEpoch.number + ⌊v⌋)) := serialDay_iff.2 rfl
    exact ⟨_, ⟨hd, toCell_serial hv hd, Date.isStrictDate_iso hd.1, Date.normalizeDate?_iso hd.1⟩,
      fun d h => serialDay_iff.1 h.1⟩
  · intro s t hx hy hs ht
    obtain ⟨v, d, hv, -, -⟩ := exists_serialDay hx
    obtain ⟨w, e, hw, -, -⟩ := exists_serialDay hy
    exact ⟨v, w, hv, hw, serial_lt_iff hx hy hs ht hv hw⟩
  · intro h
    exact ⟨fun hne policy => type_serialColumn h hne,
      fun measures g => pairwise_timeBuckets_serial h⟩

/-- A day with a time, the day zero, and an empty cell. -/
def serialRows : List Row :=
  [.ofList [("d", (GridCell.serial 45292.75).toCell)], .empty,
    .ofList [("d", (GridCell.serial 0).toCell)]]

/-- The dates of these rows make up a date column, and are in the order of their days. -/
theorem serialCells_strict_iff_serialRows :
    SerialColumn serialRows "d" ∧ presentCells serialRows "d" ≠ [] ∧
      (∀ policy, (summarize policy serialRows "d").type = .date) ∧
      (GridCell.serial 0).toCell = .text "1899-12-30" ∧
      (GridCell.serial 45292.75).toCell = .text "2024-01-01" ∧
      ∃ v w, (Binary.ofFloat 0).value? = some v ∧ (Binary.ofFloat 45292.75).value? = some w ∧
        ⌊v⌋ < ⌊w⌋ := by
  have hzero : (GridCell.serial 0).toCell = .text "1899-12-30" := by decide +kernel
  have hlate : (GridCell.serial 45292.75).toCell = .text "2024-01-01" := by decide +kernel
  have hcolumn : SerialColumn serialRows "d" := by
    intro r hr
    simp only [serialRows, List.mem_cons, List.not_mem_nil, or_false] at hr
    rcases hr with rfl | rfl | rfl
    · exact .inr ⟨_, _, hlate, hlate, by decide⟩
    · exact .inl rfl
    · exact .inr ⟨_, _, hzero, hzero, by decide⟩
  have hne : presentCells serialRows "d" ≠ [] := by decide +kernel
  obtain ⟨-, -, horder, hcolumns⟩ := serialCells_strict_iff 0 45292.75 serialRows "d"
  obtain ⟨v, w, hv, hw, hlt⟩ := horder _ _ hzero hlate (by decide) (by decide)
  exact ⟨hcolumn, hne, (hcolumns hcolumn).1 hne, hzero, hlate, v, w, hv, hw, hlt.1 (by decide)⟩

/-- **The day after 9999-12-31 is written with a sign**: it is not strict, is not read back, and
comes first among texts. -/
theorem serial_2958466_not_strict :
    (GridCell.serial 2958465).toCell = .text "9999-12-31" ∧
      (GridCell.serial 2958466).toCell = .text "+10000-01-01" ∧
      isStrictDate "+10000-01-01" = false ∧ normalizeDate? "+10000-01-01" = none ∧
      "+10000-01-01" < "9999-12-31" ∧
      ¬ ∀ x, (GridCell.serial x).toCell = .empty ∨
        ∃ s, (GridCell.serial x).toCell = .text s ∧ isStrictDate s = true := by
  have hcell : (GridCell.serial 2958466).toCell = .text "+10000-01-01" := by decide +kernel
  have hstrict : isStrictDate "+10000-01-01" = false := by decide
  refine ⟨by decide +kernel, hcell, hstrict, by decide, by decide, fun h => ?_⟩
  rcases h 2958466 with hempty | ⟨s, htext, hs⟩
  · rw [hcell] at hempty
    cases hempty
  · rw [hcell] at htext
    rw [← Cell.text.inj htext, hstrict] at hs
    cases hs

end Tabular
