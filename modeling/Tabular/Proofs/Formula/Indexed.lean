import Tabular.Proofs.Formula.Safety

/-!
# Formulas with indices for columns

A formula may keep, in place of a column's name, the index at which the name stands among the
bindings. That tree says the same.

* `findIdx?_bindings`: the first binding that stands in front of a source is the first place of
  the column that is taken there.
* `Formula.indexed` puts these places for the names, and `Indexed.named?` looks them up again.
* `named?_indexed`: **all of a formula's columns are found again.**
* `indexed_of_named?`: among distinct names, only one tree of indices reads as a formula.
* `named?_eq_some_iff`: so a compiled formula is as good as its tree of indices.
-/

namespace Tabular

/-- **The index that is taken is that of the name that is taken.** -/
theorem Token.findIdx?_bindings (columns : List String) (cs : List Char) :
    (bindings columns).findIdx? (eligible cs) =
      (column? columns cs).map (bindings columns).idxOf := by
  rw [← find?_bindings]
  induction bindings columns with
  | nil => rfl
  | cons name names ih =>
    rw [List.findIdx?_cons, List.find?_cons]
    cases hname : eligible cs name with
    | true => simp
    | false =>
      rw [if_neg Bool.false_ne_true, ih]
      cases hfind : names.find? (eligible cs) with
      | none => rfl
      | some n =>
        have hne : name ≠ n := by
          rintro rfl
          rw [List.find?_some hfind] at hname
          cases hname
        simp [List.idxOf_cons_ne _ hne]

/-- The tree of a formula with indices for columns. -/
inductive Indexed where
  | number (x : Float)
  | text (s : String)
  | column (index : Nat)
  | unary (op : UnaryOp) (a : Indexed)
  | binary (op : BinaryOp) (a b : Indexed)
  | ternary (c a b : Indexed)
  | call (f : Func) (args : List Indexed)

namespace Indexed

mutual

/-- **The formula that a tree of indices stands for**, where all indices are in range. -/
def named? (names : List String) : Indexed → Option Formula
  | number x => some (.number x)
  | text s => some (.text s)
  | column index => do return .column (← names[index]?)
  | unary op a => do return .unary op (← a.named? names)
  | binary op a b => do return .binary op (← a.named? names) (← b.named? names)
  | ternary c a b => do
    return .ternary (← c.named? names) (← a.named? names) (← b.named? names)
  | call f args => do return .call f (← namedAll? names args)

/-- The formulas that the arguments of a call stand for. -/
def namedAll? (names : List String) : List Indexed → Option (List Formula)
  | [] => some []
  | a :: as => do return (← a.named? names) :: (← namedAll? names as)

end

end Indexed

namespace Formula

mutual

/-- **The tree of a formula with the first place of each name among given ones.** -/
def indexed (names : List String) : Formula → Indexed
  | number x => .number x
  | text s => .text s
  | column name => .column (names.idxOf name)
  | unary op a => .unary op (a.indexed names)
  | binary op a b => .binary op (a.indexed names) (b.indexed names)
  | ternary c a b => .ternary (c.indexed names) (a.indexed names) (b.indexed names)
  | call f args => .call f (indexedAll names args)

/-- The trees of the arguments of a call. -/
def indexedAll (names : List String) : List Formula → List Indexed
  | [] => []
  | a :: as => a.indexed names :: indexedAll names as

end

variable {names : List String}

mutual

/-- **A formula that is bound to columns is found again from its indices.** -/
theorem named?_indexed (e : Formula) (h : e.Bound names) :
    (e.indexed names).named? names = some e := by
  match e with
  | number _ | text _ => rfl
  | column name =>
    rw [indexed, Indexed.named?, getElem?_idxOf_of_mem h]
    rfl
  | unary op a =>
    rw [indexed, Indexed.named?, named?_indexed a h]
    rfl
  | binary op a b =>
    rw [indexed, Indexed.named?, named?_indexed a h.1, named?_indexed b h.2]
    rfl
  | ternary c a b =>
    rw [indexed, Indexed.named?, named?_indexed c h.1, named?_indexed a h.2.1,
      named?_indexed b h.2.2]
    rfl
  | call f args =>
    rw [indexed, Indexed.named?, namedAll?_indexedAll args h.2]
    rfl

theorem namedAll?_indexedAll (args : List Formula) (h : BoundAll names args) :
    Indexed.namedAll? names (indexedAll names args) = some args := by
  match args with
  | [] => rfl
  | a :: as =>
    rw [indexedAll, Indexed.namedAll?, named?_indexed a h.1, namedAll?_indexedAll as h.2]
    rfl

end

mutual

/-- **Among distinct names, a formula has no other tree of indices.** -/
theorem indexed_of_named? (hn : names.Nodup) (t : Indexed) {e : Formula}
    (h : t.named? names = some e) : e.indexed names = t := by
  match t with
  | .number _ | .text _ =>
    cases h
    rfl
  | .column index =>
    obtain ⟨name, hname, h⟩ := Option.bind_eq_some_iff.1 h
    cases h
    obtain ⟨hlt, rfl⟩ := List.getElem?_eq_some_iff.1 hname
    rw [indexed, hn.idxOf_getElem index hlt]
  | .unary op a =>
    obtain ⟨a', ha, h⟩ := Option.bind_eq_some_iff.1 h
    cases h
    rw [indexed, indexed_of_named? hn a ha]
  | .binary op a b =>
    obtain ⟨a', ha, h⟩ := Option.bind_eq_some_iff.1 h
    obtain ⟨b', hb, h⟩ := Option.bind_eq_some_iff.1 h
    cases h
    rw [indexed, indexed_of_named? hn a ha, indexed_of_named? hn b hb]
  | .ternary c a b =>
    obtain ⟨c', hc, h⟩ := Option.bind_eq_some_iff.1 h
    obtain ⟨a', ha, h⟩ := Option.bind_eq_some_iff.1 h
    obtain ⟨b', hb, h⟩ := Option.bind_eq_some_iff.1 h
    cases h
    rw [indexed, indexed_of_named? hn c hc, indexed_of_named? hn a ha, indexed_of_named? hn b hb]
  | .call f args =>
    obtain ⟨args', hargs, h⟩ := Option.bind_eq_some_iff.1 h
    cases h
    rw [indexed, indexedAll_of_namedAll? hn args hargs]

theorem indexedAll_of_namedAll? (hn : names.Nodup) (ts : List Indexed) {args : List Formula}
    (h : Indexed.namedAll? names ts = some args) : indexedAll names args = ts := by
  match ts with
  | [] =>
    cases h
    rfl
  | t :: ts =>
    obtain ⟨a, ha, h⟩ := Option.bind_eq_some_iff.1 h
    obtain ⟨as, has, h⟩ := Option.bind_eq_some_iff.1 h
    cases h
    rw [indexedAll, indexed_of_named? hn t ha, indexedAll_of_namedAll? hn ts has]

end

/-- **A compiled formula is as good as its tree of indices**: over distinct columns, that tree
and no other reads as the formula. -/
theorem named?_eq_some_iff {columns : List String} (hn : columns.Nodup) {source : String}
    {f : Formula} (h : compile columns source = .ok f) (t : Indexed) :
    t.named? (Token.bindings columns) = some f ↔ t = f.indexed (Token.bindings columns) := by
  have hnodup : (Token.bindings columns).Nodup := (List.mergeSort_perm _ _).nodup_iff.2 hn
  constructor
  · intro ht
    exact (indexed_of_named? hnodup t ht).symm
  · rintro rfl
    exact named?_indexed f (bound_of_compile h)

end Formula

end Tabular
