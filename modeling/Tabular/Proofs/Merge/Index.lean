import Mathlib.Data.Finset.Card
import Mathlib.Data.Finset.Dedup
import Tabular.Merge
import Tabular.Proofs.Order

/-!
# Keys and the index of the using rows

* `SameKey` says which cells have the same key: `sameKey_iff` finds it in the keys that a merge
  compares.
* `Index.of` is the index of a table. `Index.lookup_of`: **the row of a key is the last using row with
  this key.**
* `distinctKeys` are the keys of a table, each once: `Index.nodup_keys` and `Index.mem_keys` say that
  the index has each of them once.
-/

namespace Tabular

/-! ## Equal keys -/

/-- Two cells have the same key: the same text, which is not empty, or the same number. Both
zeros are the same, and other numbers if their bits are. -/
inductive SameKey : Cell → Cell → Prop where
  | text {s : String} (h : s ≠ "") : SameKey (.text s) (.text s)
  | number {x y : Float} (h : x.toBits = y.toBits) : SameKey (.number x) (.number y)
  | zero {x y : Float} (hx : (x == 0) = true) (hy : (y == 0) = true) :
      SameKey (.number x) (.number y)

theorem eq_zero_of_toBits {x : Float} (h : x.toBits = 0) : (x == 0) = true := by
  have hx : x = .ofBits 0 := eq_of_toBits_eq (h.trans (by decide))
  rw [hx]
  decide

namespace Cell

variable {c : Cell} {k : Key}

theorem key?_empty : empty.key? = none := rfl

theorem key?_number (x : Float) : (number x).key? = some (.number (if x == 0 then 0 else x.toBits)) :=
  rfl

theorem key?_text_eq_some {s : String} : (text s).key? = some k ↔ s ≠ "" ∧ k = .text s := by
  simp only [key?, String.isEmpty_iff]
  split <;> simp_all [eq_comm]

theorem key?_eq_none : c.key? = none ↔ c.isMissing = true := by
  cases c with
  | empty => simp [key?_empty, isMissing]
  | number x => simp [key?_number, isMissing]
  | text s =>
    simp only [key?, isMissing]
    split <;> simp_all

end Cell

theorem number_key_eq_iff {x y : Float} :
    (if x == 0 then 0 else x.toBits) = (if y == 0 then 0 else y.toBits) ↔
      x.toBits = y.toBits ∨ (x == 0) = true ∧ (y == 0) = true := by
  constructor
  · intro h
    split at h <;> split at h
    · rename_i hx hy
      exact .inr ⟨hx, hy⟩
    · rename_i hx hy
      exact absurd (eq_zero_of_toBits h.symm) hy
    · rename_i hx hy
      exact absurd (eq_zero_of_toBits h) hx
    · exact .inl h
  · rintro (h | ⟨hx, hy⟩)
    · rw [eq_of_toBits_eq h]
    · simp only [hx, hy, if_true]

/-- **Cells have the same key exactly if a merge compares them as equal**; a missing cell has no
key and equals none. -/
theorem sameKey_iff {c d : Cell} : SameKey c d ↔ ∃ k, c.key? = some k ∧ d.key? = some k := by
  constructor
  · rintro (hs | h | ⟨hx, hy⟩)
    · exact ⟨_, Cell.key?_text_eq_some.2 ⟨hs, rfl⟩, Cell.key?_text_eq_some.2 ⟨hs, rfl⟩⟩
    · rw [eq_of_toBits_eq h]
      exact ⟨_, Cell.key?_number _, Cell.key?_number _⟩
    · rw [Cell.key?_number, Cell.key?_number, hx, hy]
      exact ⟨_, rfl, rfl⟩
  · rintro ⟨k, hc, hd⟩
    cases c with
    | empty => cases hc
    | text s =>
      obtain ⟨hs, rfl⟩ := Cell.key?_text_eq_some.1 hc
      cases d with
      | empty | number => cases hd
      | text t =>
        obtain ⟨-, ht⟩ := Cell.key?_text_eq_some.1 hd
        cases ht
        exact .text hs
    | number x =>
      rw [Cell.key?_number, Option.some.injEq] at hc
      cases d with
      | empty => cases hd
      | text t =>
        obtain ⟨-, rfl⟩ := Cell.key?_text_eq_some.1 hd
        cases hc
      | number y =>
        rw [Cell.key?_number, Option.some.injEq, ← hc, Key.number.injEq, eq_comm,
          number_key_eq_iff] at hd
        rcases hd with h | ⟨hx, hy⟩
        · exact .number h
        · exact .zero hx hy

instance : DecidableRel SameKey := fun c d =>
  decidable_of_iff (∃ k ∈ c.key?, d.key? = some k) sameKey_iff.symm

/-! ## Looking a key up -/

namespace Index

variable {index : Index} {column : String} {rows : List Row} {k k' : Key} {r : Row}

theorem lookup_cons (k' : Key) (r' : Row) :
    List.lookup k ((k', r') :: index) = if k = k' then some r' else index.lookup k := by
  rw [List.lookup_cons]
  split <;> simp_all

theorem lookup_store :
    (store k r index).lookup k' = if k' = k then some r else index.lookup k' := by
  induction index with
  | nil => exact lookup_cons k r
  | cons e index ih =>
    obtain ⟨j, s⟩ := e
    unfold store
    split
    · rename_i h
      subst h
      rw [lookup_cons, lookup_cons]
      split <;> rfl
    · rename_i h
      rw [lookup_cons, lookup_cons, ih]
      by_cases hj : k' = j
      · subst hj
        simp [show k' ≠ k from h]
      · simp [hj]

/-- The index after one more row. -/
def step (column : String) (index : Index) (r : Row) : Index :=
  (r.key? column).elim index (store · r index)

/-- The rows of a table by key, the last one of each key. -/
def of (column : String) (rows : List Row) : Index := rows.foldl (step column) []

theorem lookup_step :
    (step column index r).lookup k = if r.key? column = some k then some r else index.lookup k := by
  unfold step
  cases hr : r.key? column with
  | none => simp
  | some j =>
    rw [Option.elim_some, lookup_store]
    simp [eq_comm]

theorem lookup_foldl : (rows.foldl (step column) index).lookup k =
    (rows.reverse.find? (·.key? column == some k)).or (index.lookup k) := by
  induction rows generalizing index with
  | nil => rfl
  | cons r rows ih =>
    rw [List.foldl_cons, ih, lookup_step, List.reverse_cons, List.find?_append, Option.or_assoc]
    congr 1
    by_cases hr : r.key? column = some k <;> simp [hr]

/-- **The row of a key is the last one with this key.** -/
theorem lookup_of :
    (of column rows).lookup k = rows.reverse.find? (·.key? column == some k) := by
  rw [of, lookup_foldl, List.lookup_nil, Option.or_none]

/-! ## The keys of a table -/

theorem keys_store : (store k r index).map Prod.fst =
    if k ∈ index.map Prod.fst then index.map Prod.fst else index.map Prod.fst ++ [k] := by
  induction index with
  | nil => rfl
  | cons e index ih =>
    unfold store
    split
    · rename_i h
      simp [h]
    · rename_i h
      rw [List.map_cons, ih, List.map_cons]
      split <;> simp_all [eq_comm]

/-- A key that is there is one of the keys. -/
theorem isSome_lookup : (index.lookup k).isSome = true ↔ k ∈ index.map Prod.fst := by
  rw [List.lookup_isSome_iff, List.mem_map]
  constructor
  · rintro ⟨e, he, hk⟩
    exact ⟨e, he, (beq_iff_eq.1 hk).symm⟩
  · rintro ⟨e, he, rfl⟩
    exact ⟨e, he, beq_self_eq_true _⟩

/-- A key that is new makes the index longer by one. -/
theorem length_store : (store k r index).length =
    if (index.lookup k).isSome then index.length else index.length + 1 := by
  rw [← List.length_map Prod.fst, keys_store, apply_ite List.length, List.length_append,
    List.length_map, List.length_singleton]
  exact if_congr isSome_lookup.symm rfl rfl

theorem keys_step : (step column index r).map Prod.fst =
    match r.key? column with
    | none => index.map Prod.fst
    | some k =>
      if k ∈ index.map Prod.fst then index.map Prod.fst else index.map Prod.fst ++ [k] := by
  unfold step
  cases r.key? column with
  | none => rfl
  | some k => exact keys_store

theorem nodup_keys_foldl (h : (index.map Prod.fst).Nodup) :
    ((rows.foldl (step column) index).map Prod.fst).Nodup := by
  induction rows generalizing index with
  | nil => exact h
  | cons r rows ih =>
    refine ih ?_
    rw [keys_step]
    split
    · exact h
    · split
      · exact h
      · rename_i hk
        rw [← List.concat_eq_append]
        exact .concat hk h

/-- The index has every key once. -/
theorem nodup_keys : ((of column rows).map Prod.fst).Nodup := nodup_keys_foldl .nil

theorem mem_keys_foldl : k ∈ (rows.foldl (step column) index).map Prod.fst ↔
    k ∈ index.map Prod.fst ∨ k ∈ rows.filterMap (·.key? column) := by
  induction rows generalizing index with
  | nil => simp
  | cons r rows ih =>
    rw [List.foldl_cons, ih, keys_step]
    rw [List.filterMap_cons]
    cases r.key? column with
    | none => rfl
    | some j =>
      dsimp only
      rw [List.mem_cons, or_left_comm, ← or_assoc]
      refine or_congr_left ?_
      split
      · rename_i hj
        constructor
        · exact .inr
        · rintro (rfl | h)
          · exact hj
          · exact h
      · rw [List.mem_append, List.mem_singleton, or_comm]

/-- The index has the keys of the rows. -/
theorem mem_keys :
    k ∈ (of column rows).map Prod.fst ↔ k ∈ rows.filterMap (·.key? column) := by
  rw [of, mem_keys_foldl]
  simp

end Index

/-- The keys of a table, each once. -/
def distinctKeys (column : String) (rows : List Row) : Finset Key :=
  (rows.filterMap (·.key? column)).toFinset

namespace Index

variable {column : String} {rows masters : List Row}

theorem toFinset_keys : ((of column rows).map Prod.fst).toFinset = distinctKeys column rows := by
  ext k
  rw [distinctKeys, List.mem_toFinset, List.mem_toFinset, mem_keys]

/-- The index is as long as there are distinct keys. -/
theorem length_of : (of column rows).length = (distinctKeys column rows).card := by
  rw [← toFinset_keys, List.toFinset_card_of_nodup nodup_keys, List.length_map]

/-- The keys that no master row has. -/
theorem countP_of : ((of column rows).countP fun e => e.1 ∉ masters.filterMap (·.key? column)) =
    (distinctKeys column rows \ distinctKeys column masters).card := by
  have hfilter : distinctKeys column rows \ distinctKeys column masters =
      (((of column rows).map Prod.fst).filter (· ∉ masters.filterMap (·.key? column))).toFinset := by
    ext k
    rw [Finset.mem_sdiff, ← toFinset_keys, List.mem_toFinset, List.mem_toFinset, List.mem_filter,
      distinctKeys, List.mem_toFinset, decide_eq_true_eq]
  rw [hfilter, List.toFinset_card_of_nodup (nodup_keys.filter _), ← List.countP_eq_length_filter,
    List.countP_map]
  rfl

end Index

/-- Rows with a key are those whose key cell is not missing. -/
theorem length_keys (column : String) (rows : List Row) :
    (rows.filterMap (·.key? column)).length = rows.countP fun r => !(r.cell column).isMissing := by
  rw [List.length_filterMap_eq_countP]
  refine List.countP_congr fun r _ => ?_
  rw [Row.key?, Option.isSome_iff_ne_none, ne_eq, Cell.key?_eq_none, Bool.not_eq_true,
    Bool.not_eq_true']

end Tabular
