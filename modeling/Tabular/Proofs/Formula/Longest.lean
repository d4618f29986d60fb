import Tabular.Formula.Column
import Tabular.Proofs.Formula.Matching
import Tabular.Proofs.Refusal

/-!
# The order of the columns

The lexer takes the longest column name that stands in front of what is left of a source. There is
only one such name, so the order of the columns does not matter.

* `Longest`: a column is the longest one that stands in front. `Longest.unique`: it is the only one.
* `column?_eq_some_iff` and `column?_eq_none`: what the lexer takes, and when it takes no column.
* `find?_bindings`: with the long names in front, the first name that stands there is taken.
* `compile_perm`: **formulas do not depend on the order of the columns.**
-/

namespace Tabular

namespace Token

variable {columns columns' : List String} {cs : List Char} {name n : String}

/-- The name is the longest column that stands in front of a source. -/
structure Longest (columns : List String) (cs : List Char) (name : String) : Prop where
  mem : name ∈ columns
  stands : ∃ after, Stands name cs after
  length_le : ∀ n ∈ columns, (∃ after, Stands n cs after) → n.toList.length ≤ name.toList.length

/-- **No two columns are the longest**: both are prefixes of one source, and none is longer. -/
theorem Longest.unique (h : Longest columns cs name) (h' : Longest columns cs n) : name = n := by
  obtain ⟨after, hs⟩ := h.stands
  obtain ⟨after', hs'⟩ := h'.stands
  have hle : n.toList.length ≤ name.toList.length := h.length_le n h'.mem h'.stands
  have hge : name.toList.length ≤ n.toList.length := h'.length_le name h.mem h.stands
  have htext : name.toList ++ after = n.toList ++ after' := hs.text.symm.trans hs'.text
  have heq : name.toList = n.toList := List.append_inj_left htext (by omega)
  exact String.toList_inj.1 heq

/-- The order of the columns does not matter to which one is the longest. -/
theorem Longest.perm (hp : columns.Perm columns') (h : Longest columns cs name) :
    Longest columns' cs name where
  mem := hp.mem_iff.1 h.mem
  stands := h.stands
  length_le n hn := h.length_le n (hp.mem_iff.2 hn)

theorem foldl_longer_ne_none {names : List String} {b : String} :
    names.foldl longer (some b) ≠ none := by
  induction names generalizing b with
  | nil => simp
  | cons n names ih =>
    obtain ⟨m, hm, -⟩ := longer_eq (some b) n
    rw [List.foldl_cons, hm]
    exact ih

/-- No column is taken where none stands. -/
theorem column?_eq_none :
    column? columns cs = none ↔ ∀ n ∈ columns, ¬ ∃ after, Stands n cs after := by
  unfold column?
  simp only [← eligible_iff]
  constructor
  · intro h n hn he
    cases hfilter : columns.filter (eligible cs) with
    | nil => exact List.filter_eq_nil_iff.1 hfilter n hn he
    | cons m names =>
      rw [hfilter, List.foldl_cons] at h
      exact foldl_longer_ne_none h
  · intro h
    rw [List.filter_eq_nil_iff.2 h]
    rfl

/-- **The column that is taken is the longest one.** -/
theorem column?_eq_some_iff : column? columns cs = some name ↔ Longest columns cs name := by
  have hlongest : ∀ {m}, column? columns cs = some m → Longest columns cs m := by
    intro m h
    obtain ⟨hmem, helig, hlen⟩ := column?_eq_some h
    exact ⟨hmem, eligible_iff.1 helig, fun n hn hs => hlen n hn (eligible_iff.2 hs)⟩
  constructor
  · exact hlongest
  · intro h
    cases hcol : column? columns cs with
    | none => exact absurd h.stands (column?_eq_none.1 hcol name h.mem)
    | some m => rw [h.unique (hlongest hcol)]

/-- **The column that is taken does not depend on the order of the columns.** -/
theorem column?_perm (hp : columns.Perm columns') (cs : List Char) :
    column? columns cs = column? columns' cs := by
  cases hcol : column? columns cs with
  | none =>
    have hnone := column?_eq_none.1 hcol
    exact (column?_eq_none.2 fun n hn => hnone n (hp.mem_iff.2 hn)).symm
  | some name =>
    have hlongest := column?_eq_some_iff.1 hcol
    exact (column?_eq_some_iff.2 (hlongest.perm hp)).symm

/-! ## Long names in front -/

/-- The first name is not shorter than the second. -/
def notShorter (a b : String) : Bool := decide (b.toList.length ≤ a.toList.length)

/-- The columns with long names in front; names of one length stay in their order. -/
def bindings (columns : List String) : List String := columns.mergeSort notShorter

theorem mem_bindings : name ∈ bindings columns ↔ name ∈ columns :=
  (List.mergeSort_perm _ _).mem_iff

/-- **With long names in front, the first one that stands there is taken.** -/
theorem find?_bindings (columns : List String) (cs : List Char) :
    (bindings columns).find? (eligible cs) = column? columns cs := by
  have htrans : ∀ a b c, notShorter a b = true → notShorter b c = true → notShorter a c = true := by
    intro a b c hab hbc
    unfold notShorter at *
    simp only [decide_eq_true_eq] at *
    omega
  have htotal : ∀ a b, (notShorter a b || notShorter b a) = true := by
    intro a b
    unfold notShorter
    simp only [Bool.or_eq_true, decide_eq_true_eq]
    omega
  have hsorted : (bindings columns).Pairwise fun a b => notShorter a b = true :=
    List.pairwise_mergeSort htrans htotal columns
  cases hfind : (bindings columns).find? (eligible cs) with
  | none =>
    have hnone := List.find?_eq_none.1 hfind
    refine (column?_eq_none.2 ?_).symm
    intro n hn hs
    exact hnone n (mem_bindings.2 hn) (eligible_iff.2 hs)
  | some name =>
    obtain ⟨helig, before, after, hsplit, hbefore⟩ := List.find?_eq_some_iff_append.1 hfind
    refine (column?_eq_some_iff.2 ⟨?_, eligible_iff.1 helig, ?_⟩).symm
    · exact mem_bindings.1 (by simp [hsplit])
    · intro n hn hs
      have hmem : n ∈ before ++ name :: after := hsplit ▸ mem_bindings.2 hn
      rw [hsplit] at hsorted
      -- what stands before the first one found does not stand in front of the source
      have hnot : n ∉ before := by
        intro hb
        have := hbefore n hb
        rw [eligible_iff.2 hs] at this
        cases this
      rcases List.mem_cons.1 ((List.mem_append.1 hmem).resolve_left hnot) with rfl | hafter
      · exact Nat.le_refl _
      · have := (List.pairwise_cons.1 (List.pairwise_append.1 hsorted).2.1).1 n hafter
        unfold notShorter at this
        exact of_decide_eq_true this

end Token

/-! ## Formulas -/

variable {columns columns' : List String}

/-- The columns matter to the lexer only through what is taken. -/
theorem Lexeme.cut_congr (h : ∀ cs, Token.column? columns cs = Token.column? columns' cs)
    (pos : Nat) (cs : List Char) : cut columns pos cs = cut columns' pos cs := by
  have hscan (c : Char) (rest : List Char) (pos : Nat) :
      Token.scan columns' c rest pos = Token.scan columns c rest pos := Token.scan_congr (h _).symm
  fun_induction cut columns pos cs with
  | case1 pos cs hnil => rw [cut_of_nil columns' pos hnil]
  | case2 pos cs c rest hcons start e hk =>
    rw [cut_of_cons columns' pos hcons]
    dsimp only
    rw [hscan, hk]
    rfl
  | case3 pos cs c rest hcons start token k hk e hmore ih =>
    rw [cut_of_cons columns' pos hcons]
    dsimp only
    rw [hscan, hk]
    show _ = (cut columns' _ (rest.drop k) >>= _)
    rw [← ih, hmore]
    rfl
  | case4 pos cs c rest hcons start token k hk ts hmore ih =>
    rw [cut_of_cons columns' pos hcons]
    dsimp only
    rw [hscan, hk]
    show _ = (cut columns' _ (rest.drop k) >>= _)
    rw [← ih, hmore]
    rfl

namespace Formula

/-- **Formulas do not depend on the order of the columns.** With the same columns in another order
a source is refused for the same cause, or gives a formula that has the same value or the same
error in every row. -/
theorem compile_perm (h : columns.Perm columns') (source : String) :
    EndsAlike (fun f f' => ∀ r, f.evaluate r = f'.evaluate r)
      (compile columns source) (compile columns' source) := by
  have hlex : Lexeme.ofSource columns source = Lexeme.ofSource columns' source :=
    Lexeme.cut_congr (Token.column?_perm h) 0 source.toList
  unfold compile
  rw [hlex]
  refine .bind_right _ fun ts => ?_
  cases parse ts with
  | ok f => exact .ok fun r => rfl
  | error e => exact .error e

/-- Names of one length may change places. -/
theorem compile_perm_sameLength :
    ["a b", "a c", "a"].Perm ["a", "a c", "a b"] ∧
      EndsAlike (fun f f' => ∀ r, f.evaluate r = f'.evaluate r)
        (compile ["a b", "a c", "a"] "a c + a b * a")
        (compile ["a", "a c", "a b"] "a c + a b * a") := by
  have h : ["a b", "a c", "a"].Perm ["a", "a c", "a b"] := by decide
  exact ⟨h, compile_perm h "a c + a b * a"⟩

end Formula

end Tabular
