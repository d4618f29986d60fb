import Tabular.Formula.Column
import Tabular.Proofs.Formula.Grammar

/-!
# The columns that a formula reads

The value of a formula in a row comes from the cells of the columns that it names.

* `Formula.columns` are these names, in the order of the source: `Derives.columns_eq` finds them
  among the tokens.
* `eval_congr`: rows that agree on them give a formula the same value or the same error.
-/

namespace Tabular

namespace Formula

mutual

/-- The names of the columns that a formula reads, in order. -/
def columns : Formula → List String
  | number _ | text _ => []
  | column name => [name]
  | unary _ a => a.columns
  | binary _ a b => a.columns ++ b.columns
  | ternary c a b => c.columns ++ (a.columns ++ b.columns)
  | call _ args => columnsAll args

/-- The names of the columns that the arguments of a call read, in order. -/
def columnsAll : List Formula → List String
  | [] => []
  | a :: as => a.columns ++ columnsAll as

end

/-! ## Columns among the tokens -/

/-- The columns that tokens name. -/
def columnTokens (u : List Token) : List String :=
  u.filterMap fun
    | .column name => some name
    | _ => none

@[simp] theorem columnTokens_nil : columnTokens [] = [] := rfl

@[simp] theorem columnTokens_symbol (s : Symbol) (u : List Token) :
    columnTokens (.symbol s :: u) = columnTokens u := rfl

@[simp] theorem columnTokens_word (name : String) (u : List Token) :
    columnTokens (.word name :: u) = columnTokens u := rfl

@[simp] theorem columnTokens_append (u v : List Token) :
    columnTokens (u ++ v) = columnTokens u ++ columnTokens v := List.filterMap_append

theorem mem_columnTokens {name : String} {u : List Token} :
    name ∈ columnTokens u ↔ .column name ∈ u := by
  unfold columnTokens
  rw [List.mem_filterMap]
  constructor
  · rintro ⟨k, hk, h⟩
    split at h <;> cases h
    exact hk
  · intro h
    exact ⟨_, h, rfl⟩

mutual

/-- A formula reads the columns that its tokens name, in their order. -/
theorem Derives.columns_eq {l : Level} {u : List Token} {e : Formula} (h : Derives l u e) :
    e.columns = columnTokens u := by
  match h with
  | .disjunction h | .operand h | .unsigned h | .base h => exact h.columns_eq
  | .choice hc ha hb => simp [columns, hc.columns_eq, ha.columns_eq, hb.columns_eq]
  | .chain ha _ hb => simp [columns, ha.columns_eq, hb.columns_eq]
  | .power ha _ hb => simp [columns, ha.columns_eq, hb.columns_eq]
  | .sign _ h => simp [columns, h.columns_eq]
  | .number _ | .text _ | .column _ => rfl
  | .parens h => simp [h.columns_eq]
  | .call _ h _ => simp [columns, h.columns_eq]

theorem DerivesAll.columns_eq {u : List Token} {args : List Formula} (h : DerivesAll u args) :
    columnsAll args = columnTokens u := by
  match h with
  | .one h => simp [columnsAll, h.columns_eq]
  | .more h hs => simp [columnsAll, h.columns_eq, hs.columns_eq]

end

/-! ## Rows that agree -/

variable {r r' : Row}

mutual

/-- **A formula has the same value in rows that agree on the columns that it reads.** -/
theorem eval_congr (e : Formula) (h : ∀ name ∈ e.columns, r.cell name = r'.cell name) :
    eval r e = eval r' e := by
  match e with
  | number _ | text _ => rfl
  | column name => simp only [eval, h name (by simp [columns])]
  | unary op a =>
    have ha := eval_congr a h
    simp only [eval, ha]
  | binary op a b =>
    simp only [columns, List.forall_mem_append] at h
    have ha := eval_congr a h.1
    have hb := eval_congr b h.2
    simp only [eval, ha, hb]
  | ternary c a b =>
    simp only [columns, List.forall_mem_append] at h
    have hc := eval_congr c h.1
    have ha := eval_congr a h.2.1
    have hb := eval_congr b h.2.2
    simp only [eval, hc, ha, hb]
  | call f args =>
    have hs := evalChoice_congr args h
    have hm := evalMissing_congr args h
    have hn := evalNumbers_congr f args h
    cases f <;> simp only [eval, hs, hm, hn]

theorem evalChoice_congr (args : List Formula)
    (h : ∀ name ∈ columnsAll args, r.cell name = r'.cell name) :
    evalChoice r args = evalChoice r' args := by
  match args with
  | [c, a, b] =>
    simp only [columnsAll, List.append_nil, List.forall_mem_append] at h
    have hc := eval_congr c h.1
    have ha := eval_congr a h.2.1
    have hb := eval_congr b h.2.2
    simp only [evalChoice, hc, ha, hb]
  | [] | [_] | [_, _] | _ :: _ :: _ :: _ :: _ => rfl

theorem evalMissing_congr (args : List Formula)
    (h : ∀ name ∈ columnsAll args, r.cell name = r'.cell name) :
    evalMissing r args = evalMissing r' args := by
  match args with
  | [] => rfl
  | a :: as =>
    simp only [columnsAll, List.forall_mem_append] at h
    have ha := eval_congr a h.1
    simp only [evalMissing, ha]

theorem evalNumbers_congr (f : Func) (args : List Formula)
    (h : ∀ name ∈ columnsAll args, r.cell name = r'.cell name) :
    evalNumbers f r args = evalNumbers f r' args := by
  match args with
  | [] => rfl
  | a :: as =>
    simp only [columnsAll, List.forall_mem_append] at h
    have ha := eval_congr a h.1
    have has := evalNumbers_congr f as h.2
    simp only [evalNumbers, ha, has]

end

/-- The cell of a formula, too, comes from the columns that it reads. -/
theorem evaluate_congr (e : Formula) (h : ∀ name ∈ e.columns, r.cell name = r'.cell name) :
    e.evaluate r = e.evaluate r' := by
  unfold evaluate
  rw [e.eval_congr h]

end Formula

end Tabular
