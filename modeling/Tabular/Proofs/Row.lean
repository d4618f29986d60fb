import Tabular.Cell

/-!
# What rows hold

A row is seen through `Row.get?`: the operations on rows are known by what they do to this view.

* `get?_eq_some` and `mem_names`: the view says which entries and which names a row has.
* `eq_of_cell`: rows with the same names and cells are equal.
* `get?_overlay`: **of two rows laid over each other the upper one is seen first.**
* `mem_names_ofList` and `mem_names_zip`: the names in a row that is built from a list, and
  `map_cell_zip` its cells.
* `Row.Finite`: every number in a row is finite, which the operations keep.
-/

namespace Tabular

namespace Row

variable {r s : Row} {name n : String} {c : Cell} {es : List (String × Cell)}

/-! ## The view and the entries -/

theorem lookup_eq_some (h : (es.map Prod.fst).Nodup) :
    es.lookup name = some c ↔ (name, c) ∈ es := by
  induction es with
  | nil => simp
  | cons e es ih =>
    obtain ⟨k, d⟩ := e
    rw [List.map_cons, List.nodup_cons] at h
    rw [lookup_cons, List.mem_cons, Prod.mk.injEq]
    split
    · rename_i hk
      subst hk
      have hnot : (name, c) ∉ es := fun hm => h.1 (List.mem_map.2 ⟨_, hm, rfl⟩)
      simp [hnot, eq_comm]
    · rename_i hk
      simp [hk, ih h.2]

theorem get?_eq_some : r.get? name = some c ↔ (name, c) ∈ r.entries := lookup_eq_some r.distinct

theorem mem_names : name ∈ r.names ↔ ∃ c, r.get? name = some c := by
  simp [names, get?_eq_some]

/-- A name that is not in the row has no cell. -/
theorem get?_eq_none (h : name ∉ r.names) : r.get? name = none := by
  rw [Option.eq_none_iff_forall_ne_some]
  intro c hc
  exact h (mem_names.2 ⟨c, hc⟩)

/-- A cell that is kept is seen as before. -/
theorem cell_keep (r : Row) {p : String → Bool} (h : p name = true) :
    (r.keep p).cell name = r.cell name := by
  unfold cell
  rw [get?_keep, if_pos h]

@[simp] theorem names_empty : empty.names = [] := rfl

@[simp] theorem mem_names_keep {p : String → Bool} :
    name ∈ (r.keep p).names ↔ p name = true ∧ name ∈ r.names := by
  rw [mem_names, mem_names, get?_keep]
  split <;> simp_all

/-! ## Equal rows -/

theorem eq_of_entries (h : r.entries = s.entries) : r = s := by
  cases r
  cases s
  cases h
  rfl

/-- The entries are the cells of the names. -/
theorem map_cell_names (r : Row) : (r.names.map fun n => (n, r.cell n)) = r.entries := by
  have hentry : ∀ e ∈ r.entries, (e.1, r.cell e.1) = e := by
    intro e he
    have hcell : r.get? e.1 = some e.2 := get?_eq_some.2 he
    rw [Row.cell, hcell, Option.getD_some]
  rw [names, List.map_map]
  exact (List.map_congr_left hentry).trans r.entries.map_id

/-- **Rows with the same names and the same cells are equal.** -/
theorem eq_of_cell (hnames : r.names = s.names) (hcell : ∀ n, r.cell n = s.cell n) : r = s := by
  apply eq_of_entries
  rw [← map_cell_names r, ← map_cell_names s, hnames, funext hcell]

/-! ## Storing many cells -/

theorem map_fst_put (h : name ∈ es.map Prod.fst) :
    (put name c es).map Prod.fst = es.map Prod.fst := by
  induction es with
  | nil => cases h
  | cons e es ih =>
    unfold put
    split
    · rename_i he
      rw [List.map_cons, List.map_cons, he]
    · rename_i he
      rw [List.map_cons, List.map_cons, ih (List.mem_of_ne_of_mem (Ne.symm he) h)]

/-- A cell under a name that the row has takes the place of the one before. -/
theorem names_insert (h : name ∈ r.names) : (r.insert name c).names = r.names := map_fst_put h

theorem names_foldl (h : ∀ n ∈ es.map Prod.fst, n ∈ r.names) :
    (es.foldl (fun r e => r.insert e.1 e.2) r).names = r.names := by
  induction es generalizing r with
  | nil => rfl
  | cons e es ih =>
    have hnames : (r.insert e.1 e.2).names = r.names := names_insert (h _ List.mem_cons_self)
    rw [List.foldl_cons, ih, hnames]
    intro n hn
    rw [hnames]
    exact h n (List.mem_cons_of_mem _ hn)

theorem mem_names_foldl : name ∈ (es.foldl (fun r e => r.insert e.1 e.2) r).names ↔
    name ∈ r.names ∨ name ∈ es.map Prod.fst := by
  induction es generalizing r with
  | nil => simp
  | cons e es ih =>
    rw [List.foldl_cons, ih, mem_names_insert, List.map_cons, List.mem_cons, or_assoc, or_left_comm]

theorem get?_foldl (h : (es.map Prod.fst).Nodup) :
    (es.foldl (fun r e => r.insert e.1 e.2) r).get? name = (es.lookup name).or (r.get? name) := by
  induction es generalizing r with
  | nil => rfl
  | cons e es ih =>
    obtain ⟨k, d⟩ := e
    rw [List.map_cons, List.nodup_cons] at h
    rw [List.foldl_cons, ih h.2, get?_insert, lookup_cons]
    split
    · rename_i hk
      subst hk
      have hnone : es.lookup name = none := by
        rw [Option.eq_none_iff_forall_ne_some]
        intro c hc
        exact h.1 (List.mem_map.2 ⟨_, (lookup_eq_some h.2).1 hc, rfl⟩)
      rw [hnone, Option.none_or, Option.some_or]
    · rfl

/-- A cell that is stored comes from the list or was there before. -/
theorem of_get?_foldl (h : (es.foldl (fun r e => r.insert e.1 e.2) r).get? name = some c) :
    (name, c) ∈ es ∨ r.get? name = some c := by
  induction es generalizing r with
  | nil => exact .inr h
  | cons e es ih =>
    rcases ih h with h | h
    · exact .inl (List.mem_cons_of_mem _ h)
    · rw [get?_insert] at h
      split at h
      · rename_i hk
        cases h
        rw [hk]
        exact .inl List.mem_cons_self
      · exact .inr h

/-- **What lies over is seen first.** -/
@[simp] theorem get?_overlay : (r.overlay s).get? name = (s.get? name).or (r.get? name) :=
  get?_foldl s.distinct

@[simp] theorem mem_names_overlay : name ∈ (r.overlay s).names ↔ name ∈ r.names ∨ name ∈ s.names :=
  mem_names_foldl

/-- A row that is laid over one with all of its names adds none. -/
theorem names_overlay (h : ∀ n ∈ s.names, n ∈ r.names) : (r.overlay s).names = r.names :=
  names_foldl h

theorem mem_names_ofList : name ∈ (ofList es).names ↔ name ∈ es.map Prod.fst := by
  unfold ofList
  rw [mem_names_foldl, names_empty]
  simp

/-- The names of a row that is read off a list of columns. -/
theorem mem_names_zip {columns : List String} {cells : List Cell}
    (h : columns.length = cells.length) :
    name ∈ (ofList (columns.zip cells)).names ↔ name ∈ columns := by
  rw [mem_names_ofList, List.map_fst_zip (Nat.le_of_eq h)]

theorem cell_ofList {es : List (String × Cell)} (h : (es.map Prod.fst).Nodup) (name : String) :
    (ofList es).cell name = (es.lookup name).getD .empty := by
  have hnone : Row.empty.get? name = none := rfl
  unfold Row.cell ofList
  rw [get?_foldl h, hnone, Option.or_none]

/-- The cells of a row that is read off a list of columns. -/
theorem map_cell_zip {columns : List String} {cells : List Cell} (hnodup : columns.Nodup)
    (h : columns.length = cells.length) :
    columns.map (ofList (columns.zip cells)).cell = cells := by
  have hzip : ((columns.zip cells).map Prod.fst).Nodup := by
    rwa [List.map_fst_zip (Nat.le_of_eq h)]
  rw [funext (cell_ofList hzip)]
  clear hzip
  induction columns generalizing cells with
  | nil => exact (List.eq_nil_of_length_eq_zero h.symm).symm
  | cons name columns ih =>
    cases cells with
    | nil => cases h
    | cons c cells =>
      rw [List.nodup_cons] at hnodup
      have hrest := ih hnodup.2 (Nat.succ.inj h)
      have hother : ∀ n ∈ columns, (((name, c) :: columns.zip cells).lookup n).getD .empty =
          ((columns.zip cells).lookup n).getD .empty := by
        intro n hn
        rw [lookup_cons, if_neg]
        rintro rfl
        exact hnodup.1 hn
      rw [List.zip_cons_cons, List.map_cons, lookup_cons, if_pos rfl, List.map_congr_left hother,
        hrest]
      rfl

end Row

/-! ## Finite numbers -/

/-- A number in a cell is finite. -/
def Cell.Finite (c : Cell) : Prop := ∀ x, c = .number x → x.isFinite = true

theorem Cell.finite_empty : Cell.empty.Finite := nofun

theorem Cell.finite_text (s : String) : (Cell.text s).Finite := nofun

theorem Cell.finite_number {x : Float} (h : x.isFinite = true) : (Cell.number x).Finite := by
  rintro _ ⟨⟩
  exact h

/-- **Every number in the row is finite.** -/
def Row.Finite (r : Row) : Prop := ∀ e ∈ r.entries, e.2.Finite

namespace Row

variable {r s : Row} {name : String} {c : Cell} {es : List (String × Cell)}

theorem finite_iff : r.Finite ↔ ∀ name c, r.get? name = some c → c.Finite := by
  constructor
  · intro h name c hc
    exact h _ (get?_eq_some.1 hc)
  · rintro h ⟨name, c⟩ he
    exact h name c (get?_eq_some.2 he)

theorem Finite.cell (h : r.Finite) (name : String) : (r.cell name).Finite := by
  unfold Row.cell
  cases hc : r.get? name with
  | none => exact Cell.finite_empty
  | some c => exact finite_iff.1 h name c hc

theorem Finite.insert (h : r.Finite) (hc : c.Finite) : (r.insert name c).Finite := by
  rw [finite_iff] at h ⊢
  intro n d hd
  rw [get?_insert] at hd
  split at hd
  · cases hd
    exact hc
  · exact h n d hd

theorem Finite.keep (h : r.Finite) (p : String → Bool) : (r.keep p).Finite := by
  rw [finite_iff] at h ⊢
  intro n d hd
  rw [get?_keep] at hd
  split at hd
  · exact h n d hd
  · cases hd

theorem finite_ofList (h : ∀ e ∈ es, e.2.Finite) : (ofList es).Finite := by
  rw [finite_iff]
  intro n d hd
  rcases of_get?_foldl hd with hd | hd
  · exact h _ hd
  · cases hd

end Row

end Tabular
