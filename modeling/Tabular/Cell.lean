import Tabular.Decimal.Shortest
import Tabular.Decimal.Numeral
import Tabular.Text.Blank

/-!
# Cells and rows

A table cell is empty, a number or a text. A row gives cells to column names; a column that
a row does not name reads as an empty cell.

* `Cell.display` is the text of a cell in tables, keys and delimited text.
* `Cell.toNumber?` also reads numbers out of texts.
* `Row` keeps its columns in the order of their insertion, each once.
* `Row.get?` is the view of a row that the lemmas on its operations speak of.
-/

namespace Tabular

/-- One cell of a table. -/
inductive Cell where
  | empty
  | number (x : Float)
  | text (s : String)
  deriving DecidableEq

namespace Cell

/-- Empty cells and empty texts are missing. -/
def isMissing : Cell → Bool
  | .empty => true
  | .text s => s.isEmpty
  | .number _ => false

/-- The number in a numeric cell. -/
def number? : Cell → Option Float
  | .number x => some x
  | _ => none

/-- A finite number, also one written as text with blanks around it. -/
def toNumber? : Cell → Option Float
  | .number x => if x.isFinite then some x else none
  | .text s => (float? (trimmed s)).filter (·.isFinite)
  | .empty => none

/-- The text of a cell; a period stands for an empty one. -/
def display : Cell → String
  | .empty => "."
  | .number x => decimal x
  | .text s => s

end Cell

/-- A row of a table: cells by column name, each name once, in order of insertion. -/
structure Row where
  entries : List (String × Cell)
  distinct : (entries.map Prod.fst).Nodup

namespace Row

/-- The row without cells. -/
def empty : Row := ⟨[], by simp⟩

/-- The cell stored under a name. -/
def get? (r : Row) (name : String) : Option Cell := r.entries.lookup name

/-- The cell in a column; a column without a cell is empty. -/
def cell (r : Row) (name : String) : Cell := (r.get? name).getD .empty

/-- The names that have a cell. -/
def names (r : Row) : List String := r.entries.map Prod.fst

/-- The entries with the cell of `name` replaced in its place, or added at the end. -/
def put (name : String) (c : Cell) : List (String × Cell) → List (String × Cell)
  | [] => [(name, c)]
  | e :: es => if e.1 = name then (name, c) :: es else e :: put name c es

theorem mem_names_put {name n : String} {c : Cell} {es : List (String × Cell)} :
    n ∈ (put name c es).map Prod.fst ↔ n = name ∨ n ∈ es.map Prod.fst := by
  induction es with
  | nil => simp [put]
  | cons e es ih =>
    unfold put
    split
    · rename_i h
      subst h
      simp
    · rw [List.map_cons, List.mem_cons, ih, List.map_cons, List.mem_cons]
      constructor
      · rintro (h | h | h) <;> simp [h]
      · rintro (h | h | h) <;> simp [h]

theorem nodup_put {name : String} {c : Cell} {es : List (String × Cell)}
    (h : (es.map Prod.fst).Nodup) : ((put name c es).map Prod.fst).Nodup := by
  induction es with
  | nil => simp [put]
  | cons e es ih =>
    rw [List.map_cons, List.nodup_cons] at h
    unfold put
    split
    · rename_i he
      subst he
      rw [List.map_cons, List.nodup_cons]
      exact h
    · rename_i he
      rw [List.map_cons, List.nodup_cons, mem_names_put]
      refine ⟨?_, ih h.2⟩
      rintro (h' | h')
      · exact he h'
      · exact h.1 h'

theorem lookup_cons (name n : String) (c : Cell) (es : List (String × Cell)) :
    ((name, c) :: es).lookup n = if n = name then some c else es.lookup n := by
  rw [List.lookup_cons]
  split <;> simp_all

/-- Storing a cell is seen under its name and nowhere else. -/
theorem lookup_put (name n : String) (c : Cell) (es : List (String × Cell)) :
    (put name c es).lookup n = if n = name then some c else es.lookup n := by
  induction es with
  | nil => exact lookup_cons name n c []
  | cons e es ih =>
    obtain ⟨k, d⟩ := e
    unfold put
    split
    · rename_i h
      subst h
      rw [lookup_cons, lookup_cons]
      split <;> rfl
    · rename_i h
      rw [lookup_cons, lookup_cons, ih]
      by_cases hn : n = k
      · subst hn
        simp [show n ≠ name from h]
      · simp [hn]

/-- Stores a cell, in place of the one that the name had. -/
def insert (r : Row) (name : String) (c : Cell) : Row := ⟨put name c r.entries, nodup_put r.distinct⟩

@[simp] theorem get?_insert (r : Row) (name n : String) (c : Cell) :
    (r.insert name c).get? n = if n = name then some c else r.get? n := lookup_put name n c r.entries

@[simp] theorem cell_insert (r : Row) (name n : String) (c : Cell) :
    (r.insert name c).cell n = if n = name then c else r.cell n := by
  unfold cell
  rw [get?_insert]
  split <;> rfl

@[simp] theorem mem_names_insert (r : Row) (name n : String) (c : Cell) :
    n ∈ (r.insert name c).names ↔ n = name ∨ n ∈ r.names := mem_names_put

/-- Keeps the cells whose name passes the test. -/
def keep (r : Row) (p : String → Bool) : Row :=
  ⟨r.entries.filter (p ·.1), ((List.filter_sublist).map _).nodup r.distinct⟩

/-- A cell that is not kept is not seen, all others are. -/
theorem lookup_filter (p : String → Bool) (n : String) (es : List (String × Cell)) :
    (es.filter (p ·.1)).lookup n = if p n then es.lookup n else none := by
  induction es with
  | nil => simp
  | cons e es ih =>
    obtain ⟨k, d⟩ := e
    rw [List.filter_cons, lookup_cons]
    by_cases hn : n = k
    · subst hn
      by_cases hp : p n = true
      · simp only [hp, if_true, lookup_cons]
      · simp only [hp, if_false, ih, Bool.false_eq_true]
    · rw [if_neg hn]
      split
      · rw [lookup_cons, if_neg hn, ih]
      · exact ih

@[simp] theorem get?_keep (r : Row) (p : String → Bool) (n : String) :
    (r.keep p).get? n = if p n then r.get? n else none := lookup_filter p n r.entries

/-- Stores every cell of `s` in `r`, in order. -/
def overlay (r s : Row) : Row := s.entries.foldl (fun r e => r.insert e.1 e.2) r

/-- The row of a list of cells; of two cells under one name the later one stays. -/
def ofList (es : List (String × Cell)) : Row := es.foldl (fun r e => r.insert e.1 e.2) empty

end Row

end Tabular
