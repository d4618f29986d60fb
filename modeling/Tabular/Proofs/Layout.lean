import Mathlib
import Tabular.Layout

/-!
# Tables are set exactly

A table is set in columns of fixed width, each text at the end of its column.

* `Sets` says what a line shows in which column. `Fits.sets`: **texts that fit are set in columns.**
* `columnWidth_spec`: a column is two characters wider than the widest text in it, or than ten.
* `layout_take`: cells beyond the headers are left out.
* `readTable` cuts a table up by the widths of its columns. `readTable_layout`: **the texts of a
  table are read back**, but for blanks in front.
* `layout_exact` puts all of this together.
-/

namespace Tabular

variable {widths : List Nat} {texts : List String} {width : Nat} {text : String} {cs : List Char}

/-! ## Padding -/

/-- The text stands at the end of the piece, behind two blanks at least. -/
def Indented (text : String) (piece : List Char) : Prop :=
  ∃ n, 2 ≤ n ∧ piece = List.replicate n ' ' ++ text.toList

theorem indented_padLeft (h : text.toList.length + 2 ≤ width) :
    Indented text (padLeft width text).toList :=
  ⟨width - text.toList.length, by omega, String.toList_ofList⟩

theorem length_padLeft_of_le (h : text.toList.length ≤ width) :
    (padLeft width text).toList.length = width := by
  rw [length_padLeft]
  exact max_eq_left h

/-! ## Lines -/

/-- Every text is narrower than its column by two characters at least. -/
abbrev Fits (widths : List Nat) (texts : List String) : Prop :=
  List.Forall₂ (fun width text => text.toList.length + 2 ≤ width) widths texts

/-- The line has all its columns and nothing else, and each holds its text, indented. -/
structure Sets (widths : List Nat) (texts : List String) (line : String) : Prop where
  length_eq : line.toList.length = widths.sum
  indented : ∀ j width text, widths[j]? = some width → texts[j]? = some text →
    Indented text ((line.toList.drop (widths.take j).sum).take width)

theorem toList_headerLine_cons (width : Nat) (text : String) :
    (headerLine (width :: widths) (text :: texts)).toList =
      (padLeft width text).toList ++ (headerLine widths texts).toList := by
  simp [headerLine]

/-- **Texts that fit are set in columns.** -/
theorem Fits.sets (h : Fits widths texts) : Sets widths texts (headerLine widths texts) := by
  induction h with
  | nil => exact ⟨rfl, by simp⟩
  | @cons width text widths texts hfit _ ih =>
    have hlength : (padLeft width text).toList.length = width :=
      length_padLeft_of_le (by omega)
    refine ⟨?_, fun j w t hw ht => ?_⟩
    · rw [toList_headerLine_cons, List.length_append, hlength, ih.length_eq, List.sum_cons]
    · rw [toList_headerLine_cons]
      cases j with
      | zero =>
        obtain rfl : width = w := by simpa using hw
        obtain rfl : text = t := by simpa using ht
        rw [List.take_zero, List.sum_nil, List.drop_zero, List.take_left' hlength]
        exact indented_padLeft hfit
      | succ j =>
        rw [List.take_succ_cons, List.sum_cons, ← List.drop_drop, List.drop_left' hlength]
        exact ih.indented j w t hw ht

/-! ## Reading tables -/

/-- A text without the blanks in front. -/
def unindented (cs : List Char) : String := .ofList (cs.dropWhile (· == ' '))

/-- Cuts a line into columns and leaves out the blanks in front. -/
def readLine : List Nat → List Char → List String
  | [], _ => []
  | width :: widths, cs => unindented (cs.take width) :: readLine widths (cs.drop width)

theorem Indented.unindented_eq {piece : List Char} (h : Indented text piece) :
    unindented piece = unindented text.toList := by
  obtain ⟨n, -, rfl⟩ := h
  have hblank : ∀ c ∈ List.replicate n ' ', (c == ' ') = true := by
    simp +contextual
  rw [unindented, List.dropWhile_append_of_pos hblank]
  rfl

theorem Fits.readLine_eq (h : Fits widths texts) :
    readLine widths (headerLine widths texts).toList = texts.map fun t => unindented t.toList := by
  induction h with
  | nil => rfl
  | @cons width text widths texts hfit _ ih =>
    have hlength : (padLeft width text).toList.length = width :=
      length_padLeft_of_le (by omega)
    rw [toList_headerLine_cons, readLine, List.take_left' hlength, List.drop_left' hlength, ih,
      (indented_padLeft hfit).unindented_eq, List.map_cons]

/-- Cuts a text into lines of one width, with a character between them. -/
def cutLines (width : Nat) (cs : List Char) : List (List Char) :=
  if h : cs = [] then [] else cs.take width :: cutLines width (cs.drop (width + 1))
termination_by cs.length
decreasing_by
  have hpos : 0 < cs.length := List.length_pos_iff.2 h
  rw [List.length_drop]
  omega

theorem cutLines_nil (width : Nat) : cutLines width [] = [] := by
  rw [cutLines, dif_pos rfl]

theorem cutLines_of_length (h : cs.length = width) (hpos : 0 < width) :
    cutLines width cs = [cs] := by
  have hne : cs ≠ [] := List.length_pos_iff.1 (by omega)
  rw [cutLines, dif_neg hne, List.take_of_length_le (by omega), List.drop_eq_nil_of_le (by omega),
    cutLines_nil]

theorem cutLines_append (h : cs.length = width) (c : Char) (ds : List Char) :
    cutLines width (cs ++ c :: ds) = cs :: cutLines width ds := by
  have hfront : (cs ++ [c]).length = width + 1 := by simp [h]
  rw [cutLines, dif_neg (by simp), List.take_left' h, List.append_cons, List.drop_left' hfront]

theorem toList_lines (ls : List String) :
    (lines ls).toList = List.intercalate ['\n'] (ls.map String.toList) := by
  rw [lines, joined, String.toList_ofList]
  rfl

/-- Lines of one width are cut apart, whatever characters they have. -/
theorem cutLines_lines {ls : List String} (hpos : 0 < width)
    (h : ∀ l ∈ ls, l.toList.length = width) :
    cutLines width (lines ls).toList = ls.map String.toList := by
  rw [toList_lines]
  induction ls with
  | nil => exact cutLines_nil width
  | cons l ls ih =>
    rw [List.forall_mem_cons] at h
    cases ls with
    | nil =>
      rw [List.map_singleton, List.intercalate_singleton]
      exact cutLines_of_length h.1 hpos
    | cons l' ls =>
      rw [List.map_cons, List.map_cons, List.intercalate_cons_cons, List.append_assoc,
        List.singleton_append, cutLines_append h.1, ← List.map_cons, ih h.2]

/-! ## Widths -/

theorem widest_concat (ns : List Nat) (n : Nat) : widest (ns ++ [n]) = max (widest ns) n := by
  simp [widest]

/-- The greatest of some numbers is one of them, unless there is none above zero. -/
theorem widest_spec (ns : List Nat) :
    (∀ n ∈ ns, n ≤ widest ns) ∧ (widest ns = 0 ∨ widest ns ∈ ns) := by
  induction ns using List.reverseRecOn with
  | nil => exact ⟨by simp, .inl rfl⟩
  | append_singleton ns n ih =>
    rw [widest_concat]
    obtain ⟨hle, hmem⟩ := ih
    constructor
    · intro k hk
      rcases List.mem_append.1 hk with hk | hk
      · exact le_max_of_le_left (hle k hk)
      · rw [List.mem_singleton.1 hk]
        exact le_max_right _ _
    · rcases max_choice (widest ns) n with h | h
      · rw [h]
        exact hmem.imp_right (List.mem_append_left _)
      · rw [h]
        simp

/-- The widths that a column has to offer: ten characters, its header, and the cells in it. -/
def columnNeeds (rows : List (List Cell)) (j : Nat) (header : String) : Set Nat :=
  {n | n = 10 ∨ n = header.toList.length ∨ ∃ row ∈ rows, ∃ c, row[j]? = some c ∧ n = c.width}

/-- **A column is wider by two characters than the greatest width that it has to offer.** -/
theorem columnWidth_spec (rows : List (List Cell)) (j : Nat) (header : String) :
    ∃ n, IsGreatest (columnNeeds rows j header) n ∧ columnWidth rows j header = n + 2 := by
  obtain ⟨hle, hmem⟩ := widest_spec (rows.map fun r => (r[j]?.map Cell.width).getD 0)
  unfold columnWidth leastWidth
  generalize widest (rows.map fun r => (r[j]?.map Cell.width).getD 0) = top at hle hmem
  refine ⟨max (max header.toList.length top) 10, ⟨?_, ?_⟩, rfl⟩
  · by_cases hten : max header.toList.length top ≤ 10
    · exact .inl (max_eq_right hten)
    · rcases max_choice header.toList.length top with htop | htop
      · exact .inr (.inl (by omega))
      · -- the widest cell is wider than ten characters, so it is there
        rcases hmem with hzero | hmem
        · omega
        · obtain ⟨row, hrow, hwidth⟩ := List.mem_map.1 hmem
          cases hc : row[j]? with
          | none =>
            rw [hc, Option.map_none, Option.getD_none] at hwidth
            omega
          | some c =>
            rw [hc, Option.map_some, Option.getD_some] at hwidth
            exact .inr (.inr ⟨row, hrow, c, hc, by omega⟩)
  · rintro n (rfl | rfl | ⟨row, hrow, c, hc, rfl⟩)
    · exact le_max_right _ _
    · exact le_max_of_le_left (le_max_left _ _)
    · refine le_max_of_le_left (le_max_of_le_right (hle _ (List.mem_map.2 ⟨row, hrow, ?_⟩)))
      rw [hc]
      rfl

/-! ## Tables -/

variable {headers : List String} {rows : List (List Cell)} {row : List Cell}

/-- The texts of a row in the first `n` columns; a period stands for a cell that the row does not
have. -/
def shown (n : Nat) (row : List Cell) : List String :=
  (List.range n).map fun j => (row.getD j .empty).display

theorem tableWidth_eq_sum (ws : List Nat) : tableWidth ws = ws.sum := by
  induction ws with
  | nil => rfl
  | cons w ws ih => rw [tableWidth, ih, List.sum_cons]

theorem length_columnWidths (headers : List String) (rows : List (List Cell)) :
    (columnWidths headers rows).length = headers.length := List.length_mapIdx

theorem getElem?_columnWidths (j : Nat) :
    (columnWidths headers rows)[j]? = headers[j]?.map (columnWidth rows j) := List.getElem?_mapIdx

/-- A row is set in the way in which headers are. -/
theorem rowLine_eq (widths : List Nat) (row : List Cell) :
    rowLine widths row = headerLine widths (shown widths.length row) := by
  unfold rowLine headerLine shown
  congr 1
  refine List.ext_getElem (by simp) fun j hj hj' => ?_
  simp

theorem headerLine_fits (headers : List String) (rows : List (List Cell)) :
    Fits (columnWidths headers rows) headers := by
  refine List.forall₂_iff_get.2 ⟨length_columnWidths headers rows, fun j hj hj' => ?_⟩
  obtain ⟨n, hn, hwidth⟩ := columnWidth_spec rows j headers[j]
  have hle : headers[j].toList.length ≤ n := hn.2 (.inr (.inl rfl))
  simp only [columnWidths, List.get_eq_getElem, List.getElem_mapIdx]
  omega

/-- An empty cell is shown as a period, any other is as wide as its text. -/
theorem length_display_le (c : Cell) : c.display.toList.length ≤ max c.width 10 := by
  cases c with
  | empty => decide
  | number x => exact le_max_left _ _
  | text s => exact le_max_left _ _

theorem row_fits (headers : List String) (hrow : row ∈ rows) :
    Fits (columnWidths headers rows) (shown headers.length row) := by
  have hlength : (columnWidths headers rows).length = (shown headers.length row).length := by
    rw [length_columnWidths, shown, List.length_map, List.length_range]
  refine List.forall₂_iff_get.2 ⟨hlength, fun j hj hj' => ?_⟩
  have hheader : j < headers.length := by rwa [length_columnWidths] at hj
  obtain ⟨n, hn, hwidth⟩ := columnWidth_spec rows j headers[j]
  have hten : 10 ≤ n := hn.2 (.inl rfl)
  have hcell : (row.getD j .empty).width ≤ n := by
    rw [List.getD_eq_getElem?_getD]
    cases hc : row[j]? with
    | none => exact Nat.zero_le n
    | some c => exact hn.2 (.inr (.inr ⟨row, hrow, c, hc, rfl⟩))
  have hdisplay := length_display_le (row.getD j .empty)
  simp only [columnWidths, shown, List.get_eq_getElem, List.getElem_mapIdx, List.getElem_map,
    List.getElem_range]
  omega

/-- A row that has all its cells shows each of them. -/
theorem shown_length (row : List Cell) : shown row.length row = row.map Cell.display := by
  unfold shown
  refine List.ext_getElem (by simp) fun j hj hj' => ?_
  have hcell : j < row.length := by simpa using hj'
  simp [hcell]

/-- A row that has all its cells is set in the columns of its table. -/
theorem sets_rowLine (hrow : row ∈ rows) (hlength : row.length = headers.length) :
    Sets (columnWidths headers rows) (row.map Cell.display)
      (rowLine (columnWidths headers rows) row) := by
  have hfits := row_fits headers hrow
  rw [← hlength, shown_length] at hfits
  rw [rowLine_eq, length_columnWidths, ← hlength, shown_length]
  exact hfits.sets

theorem sum_columnWidths_pos (hne : headers ≠ []) (rows : List (List Cell)) :
    0 < (columnWidths headers rows).sum := by
  obtain ⟨header, more, rfl⟩ := List.exists_cons_of_ne_nil hne
  rw [columnWidths, List.mapIdx_cons, List.sum_cons, columnWidth, gutter]
  omega

/-- The lines of a table. -/
theorem layout_eq (hne : headers ≠ []) (rows : List (List Cell)) :
    layout headers rows =
      headerLine (columnWidths headers rows) headers ++ "\n" ++
        rule (columnWidths headers rows).sum ++ "\n" ++
        lines (rows.map (rowLine (columnWidths headers rows))) := by
  unfold layout
  rw [if_neg (by simpa using hne)]
  simp only [tableWidth_eq_sum]

/-- **Cells beyond the headers are left out.** -/
theorem layout_take (headers : List String) (rows : List (List Cell)) :
    layout headers (rows.map (·.take headers.length)) = layout headers rows := by
  have hwidths : columnWidths headers (rows.map (·.take headers.length)) =
      columnWidths headers rows := by
    refine List.ext_getElem (by simp [columnWidths]) fun j hj hj' => ?_
    have hheader : j < headers.length := by rwa [length_columnWidths] at hj'
    simp [columnWidths, columnWidth, Function.comp_def, List.getElem?_take_of_lt hheader]
  have hrow (row : List Cell) : rowLine (columnWidths headers rows) (row.take headers.length) =
      rowLine (columnWidths headers rows) row := by
    rw [rowLine_eq, rowLine_eq, length_columnWidths]
    congr 1
    refine List.map_congr_left fun j hj => ?_
    rw [List.getD_eq_getElem?_getD, List.getElem?_take_of_lt (List.mem_range.1 hj),
      List.getD_eq_getElem?_getD]
  unfold layout
  simp only [hwidths, List.map_map, Function.comp_def, hrow]

/-- Reads the header line and the rows of a table of columns with given widths; the rule is left
out. -/
def readTable (widths : List Nat) (text : String) : List (List String) :=
  ((cutLines widths.sum text.toList).eraseIdx 1).map (readLine widths)

/-- **The texts of a table are read back**, but for blanks in front. -/
theorem readTable_layout (hne : headers ≠ []) (rows : List (List Cell)) :
    readTable (columnWidths headers rows) (layout headers rows) =
      (headers :: rows.map (shown headers.length)).map (·.map fun t => unindented t.toList) := by
  have hpos := sum_columnWidths_pos hne rows
  have hheader := headerLine_fits headers rows
  have hrows : ∀ l ∈ rows.map (rowLine (columnWidths headers rows)),
      l.toList.length = (columnWidths headers rows).sum := by
    intro l hl
    obtain ⟨row, hrow, rfl⟩ := List.mem_map.1 hl
    rw [rowLine_eq, length_columnWidths]
    exact (row_fits headers hrow).sets.length_eq
  have htext : (layout headers rows).toList =
      (headerLine (columnWidths headers rows) headers).toList ++ '\n' ::
        ((rule (columnWidths headers rows).sum).toList ++ '\n' ::
          (lines (rows.map (rowLine (columnWidths headers rows)))).toList) := by
    rw [layout_eq hne]
    simp
  rw [readTable, htext, cutLines_append hheader.sets.length_eq, cutLines_append (by simp [rule]),
    cutLines_lines hpos hrows]
  simp only [List.eraseIdx_cons_succ, List.eraseIdx_cons_zero, List.map_cons, List.map_map]
  refine congrArg₂ _ hheader.readLine_eq (List.map_congr_left fun row hrow => ?_)
  show readLine _ (rowLine _ row).toList = _
  rw [rowLine_eq, length_columnWidths, (row_fits headers hrow).readLine_eq]
  rfl

/-- **A table is set exactly.** Every column is wider by two characters than the greatest of ten,
its header and its cells. Header line, rule and rows are as wide as the columns together; in each
line every column shows its text, behind two blanks at least, and cells beyond the headers are left
out. So the texts can be read back, but for blanks in front of them. -/
theorem layout_exact (headers : List String) (rows : List (List Cell)) (hne : headers ≠ []) :
    let widths := columnWidths headers rows
    (widths.length = headers.length ∧ ∀ j header, headers[j]? = some header →
      ∃ n, IsGreatest (columnNeeds rows j header) n ∧ widths[j]? = some (n + 2)) ∧
    layout headers rows = headerLine widths headers ++ "\n" ++ rule widths.sum ++ "\n" ++
      lines (rows.map (rowLine widths)) ∧
    Sets widths headers (headerLine widths headers) ∧
    (∀ row ∈ rows, Sets widths (shown headers.length row) (rowLine widths row)) ∧
    layout headers (rows.map (·.take headers.length)) = layout headers rows ∧
    readTable widths (layout headers rows) =
      (headers :: rows.map (shown headers.length)).map (·.map fun t => unindented t.toList) := by
  refine ⟨⟨length_columnWidths headers rows, fun j header hj => ?_⟩, layout_eq hne rows,
    (headerLine_fits headers rows).sets, fun row hrow => ?_, layout_take headers rows,
    readTable_layout hne rows⟩
  · obtain ⟨n, hn, hwidth⟩ := columnWidth_spec rows j header
    exact ⟨n, hn, by rw [getElem?_columnWidths, hj, Option.map_some, hwidth]⟩
  · rw [rowLine_eq, length_columnWidths]
    exact (row_fits headers hrow).sets

/-- A row with a cell too many, and a row with a cell too few and a blank in front. -/
def raggedRows : List (List Cell) := [[.text "x", .empty, .text "left out"], [.text " y"]]

/-- The texts of ragged rows are read back: a period for each empty or wanting cell, and no blank in
front. -/
theorem layout_exact_ragged :
    ["k", "a long header"] ≠ [] ∧ columnWidths ["k", "a long header"] raggedRows = [12, 15] ∧
      Sets [12, 15] [" y", "."] (rowLine [12, 15] [.text " y"]) ∧
      readTable [12, 15] (layout ["k", "a long header"] raggedRows) =
        [["k", "a long header"], ["x", "."], ["y", "."]] := by
  have hne : ["k", "a long header"] ≠ [] := by decide
  have hwidths : columnWidths ["k", "a long header"] raggedRows = [12, 15] := by decide
  obtain ⟨-, -, -, hrow, -, hread⟩ := layout_exact ["k", "a long header"] raggedRows hne
  have hlast := hrow [.text " y"] (by simp [raggedRows])
  rw [hwidths] at hlast hread
  exact ⟨hne, hwidths, hlast, hread⟩

end Tabular
