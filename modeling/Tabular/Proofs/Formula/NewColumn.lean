import Mathlib
import Tabular.Console.Run
import Tabular.Proofs.Formula.Columns
import Tabular.Proofs.Formula.Matching
import Tabular.Proofs.Formula.Recognition

/-!
# Formulas when a column is added

A formula keeps its meaning when a column is added under the name of a variable. The new name is
made of word characters, so it is not longer than a column that stands at the same place. Where no
column stands, it could only be taken for a word, and the words of a formula are functions that
are called.

* `Called`: every word of some tokens is a called function. `Derives.called`: this is so in a
  formula.
* `scan_append`: the new name is taken for nothing but a word, and not for a called function.
* `Cuts.append`: the lexer cuts the source of a formula as before.
* `compile_append`: **a formula is compiled to the same tree and does not read the new column.**
-/

namespace Tabular

variable {columns : List String} {n source : String}

/-! ## Names of variables -/

/-- The name of a variable is made of word characters, and the first one begins a word. -/
theorem exists_of_isVariableName (h : isVariableName n = true) :
    ∃ c more, n.toList = c :: more ∧ isWordStart c = true ∧ c ≠ '"' ∧ c ≠ '\'' ∧
      ∀ d ∈ n.toList, isWordChar d = true := by
  unfold isVariableName at h
  split at h
  · cases h
  · rename_i c more hn
    rw [Bool.and_eq_true, List.all_eq_true] at h
    obtain ⟨hc, hmore⟩ := h
    refine ⟨c, more, hn, ?_, ?_, ?_, ?_⟩
    · simp only [isWordStart, isLetter, Bool.or_eq_true] at hc ⊢
      exact hc.imp_left .inl
    · rintro rfl
      cases hc
    · rintro rfl
      cases hc
    · rw [hn, List.forall_mem_cons]
      simp only [isWordChar, isLetter, isNumeric, Bool.or_eq_true] at hc hmore ⊢
      refine ⟨?_, fun d hd => ?_⟩
      · exact hc.imp_left fun h => .inl (.inl h)
      · exact (hmore d hd).imp_left (.imp .inl .inl)

/-! ## The words of a formula -/

namespace Formula

/-- Every word is the name of a function, with an opening parenthesis after it. -/
def Called : List Token → Prop
  | [] => True
  | .word name :: rest =>
    (Func.ofName? name).isSome = true ∧ rest.head? = some (.symbol .opening) ∧ Called rest
  | _ :: rest => Called rest

theorem Called.tail {k : Token} {u : List Token} (h : Called (k :: u)) : Called u := by
  cases k with
  | word name => exact h.2.2
  | number | text | column | symbol => exact h

theorem Called.append {u v : List Token} (hu : Called u) (hv : Called v) : Called (u ++ v) := by
  induction u with
  | nil => exact hv
  | cons k u ih =>
    cases k with
    | word name =>
      obtain ⟨hf, ho, hu⟩ := hu
      refine ⟨hf, ?_, ih hu⟩
      show (u ++ v).head? = _
      rw [List.head?_append, ho, Option.some_or]
    | number | text | column | symbol => exact ih hu

theorem Called.symbol {s : Symbol} {u : List Token} (h : Called u) : Called (.symbol s :: u) := h

theorem called_singleton {s : Symbol} : Called [.symbol s] := trivial

mutual

/-- The words of a formula are called functions. -/
theorem Derives.called {l : Level} {u : List Token} {e : Formula} (h : Derives l u e) :
    Called u := by
  match h with
  | .disjunction h | .operand h | .unsigned h | .base h => exact h.called
  | .choice hc ha hb => exact hc.called.append (ha.called.append hb.called.symbol).symbol
  | .chain ha _ hb => exact ha.called.append hb.called.symbol
  | .power ha _ hb => exact ha.called.append hb.called.symbol
  | .sign _ h => exact h.called.symbol
  | .number _ | .text _ | .column _ => trivial
  | .parens h => exact (h.called.append called_singleton).symbol
  | .call hf h _ =>
    exact ⟨by rw [hf]; rfl, rfl, (h.called.append called_singleton).symbol⟩

theorem DerivesAll.called {u : List Token} {args : List Formula} (h : DerivesAll u args) :
    Called u := by
  match h with
  | .one h => exact h.called
  | .more h hs => exact h.called.append hs.called.symbol

end

end Formula

/-! ## Tokens when a column is added -/

namespace Token

variable {c : Char} {cs rest : List Char} {pos k : Nat} {token : Token}

theorem column?_append : column? (columns ++ [n]) cs =
    if eligible cs n then longer (column? columns cs) n else column? columns cs := by
  unfold column?
  rw [List.filter_append, List.foldl_append]
  by_cases he : eligible cs n = true <;> simp [he]

/-- A column that stands in front is taken as before. -/
theorem column?_append_of_isSome (hn : isVariableName n = true) {name : String}
    (h : column? columns cs = some name) : column? (columns ++ [n]) cs = some name := by
  rw [column?_append, h]
  split
  · rename_i he
    obtain ⟨after, hs⟩ := eligible_iff.1 he
    obtain ⟨_, hstands⟩ := eligible_iff.1 (column?_eq_some h).2.1
    obtain ⟨_, _, _, _, _, _, hword⟩ := exists_of_isVariableName hn
    exact if_neg (Nat.not_lt_of_le (hstands.length_le hs hword))
  · rfl

/-- Where the name of a variable stands and no column does, there was a word. -/
theorem exists_scan_eq_word (pos : Nat) (hn : isVariableName n = true) {after : List Char}
    (hs : Stands n (c :: rest) after) (hnum : startsNumber (c :: rest) = false)
    (hcol : column? columns (c :: rest) = none) :
    ∃ k, scan columns c rest pos = .ok (.word n, k) ∧ rest.drop k = after := by
  obtain ⟨d, more, hd, hstart, hq, hq', hword⟩ := exists_of_isVariableName hn
  have htext := hs.text
  rw [hd, List.cons_append, List.cons.injEq] at htext
  obtain ⟨rfl, rfl⟩ := htext
  have hmore : (more ++ after).takeWhile isWordChar = more := by
    rw [hd, List.forall_mem_cons] at hword
    rw [List.takeWhile_append_of_pos hword.2]
    cases after with
    | nil => simp
    | cons a rest => simp [hs.boundary a rest rfl]
  refine ⟨more.length, ?_, List.drop_left⟩
  unfold scan
  simp only [hnum, hcol, hq, hq', hstart, hmore, Bool.false_eq_true, if_false, if_true, or_self,
    ← hd, String.ofList_toList]

/-- **With a new column a source has the same token in front**, unless this was the new name as a
word. -/
theorem scan_append (hn : isVariableName n = true)
    (h : scan columns c rest pos = .ok (token, k)) :
    scan (columns ++ [n]) c rest pos = .ok (token, k) ∨
      token = .word n ∧ Stands n (c :: rest) (rest.drop k) := by
  by_cases hnum : startsNumber (c :: rest) = true
  · refine .inl ?_
    unfold scan at h ⊢
    rw [if_pos hnum] at h ⊢
    exact h
  cases hcol : column? columns (c :: rest) with
  | some name =>
    rw [scan_congr ((column?_append_of_isSome hn hcol).trans hcol.symm)]
    exact .inl h
  | none =>
    by_cases he : eligible (c :: rest) n = true
    · obtain ⟨after, hs⟩ := eligible_iff.1 he
      obtain ⟨k', hscan, rfl⟩ := exists_scan_eq_word pos hn hs (by simpa using hnum) hcol
      rw [hscan] at h
      cases h
      exact .inr ⟨rfl, hs⟩
    · have hsame : column? (columns ++ [n]) (c :: rest) = column? columns (c :: rest) := by
        rw [column?_append, if_neg he]
      rw [scan_congr hsame]
      exact .inl h

end Token

namespace Lexeme

open Formula

variable {pos : Nat} {cs : List Char} {ts : List Lexeme}

/-- Tokens that begin with an opening parenthesis are cut from a text that does. -/
theorem Cuts.head_opening (h : Cuts columns pos cs ts)
    (ho : (tokens ts).head? = some (.symbol .opening)) : (trimLeft cs).head? = some '(' := by
  cases h with
  | done => cases ho
  | next hcons _ hscan _ =>
    obtain rfl := Option.some.inj ho
    rw [hcons, Token.scan_opening hscan]
    rfl

/-- **With a new column the lexer cuts as before**, if all words are called functions. -/
theorem Cuts.append (hn : isVariableName n = true) (h : Cuts columns pos cs ts)
    (hc : Called (tokens ts)) : Cuts (columns ++ [n]) pos cs ts := by
  induction h with
  | done hnil => exact .done hnil
  | next hcons hstart hscan more ih =>
    rcases Token.scan_append hn hscan with hsame | ⟨rfl, hs⟩
    · exact .next hcons hstart hsame (ih hc.tail)
    · -- a name that is called does not stand there
      obtain ⟨hf, ho, -⟩ := hc
      exact absurd (more.head_opening ho) (hs.not_called hf)

/-- The columns among the tokens are columns of the table. -/
theorem Cuts.columnTokens_subset (h : Cuts columns pos cs ts) :
    ∀ name ∈ columnTokens (tokens ts), name ∈ columns := by
  intro name hname
  rw [mem_columnTokens] at hname
  induction h with
  | done => cases hname
  | next hcons hstart hscan more ih =>
    rcases List.mem_cons.1 hname with rfl | hname
    · exact (Token.column?_eq_some (Token.scan_column hscan)).1
    · exact ih hname

end Lexeme

namespace Formula

variable {f : Formula}

theorem compile_eq_ok : compile columns source = .ok f ↔
    ∃ ts, Lexeme.Cuts columns 0 source.toList ts ∧ Derives .ternary (tokens ts) f := by
  unfold compile Lexeme.ofSource
  rw [bind_eq_ok]
  simp only [Lexeme.cut_eq_ok, parse_eq_ok]

/-- A formula reads columns of the table that it is compiled for. -/
theorem columns_subset_of_compile (h : compile columns source = .ok f) :
    ∀ name ∈ f.columns, name ∈ columns := by
  obtain ⟨ts, hcuts, hd⟩ := compile_eq_ok.1 h
  rw [hd.columns_eq]
  exact hcuts.columnTokens_subset

/-- **A new column never changes what a formula means.** Under the name of a variable, the formula
is compiled to the same tree, and the tree has the same value or the same error in all rows that
agree on the old columns. -/
theorem compile_append (h : compile columns source = .ok f) (hn : isVariableName n = true) :
    ∃ f', compile (columns ++ [n]) source = .ok f' ∧
      ∀ r r' : Row, (∀ name ∈ columns, r.cell name = r'.cell name) →
        f.evaluate r = f'.evaluate r' := by
  obtain ⟨ts, hcuts, hd⟩ := compile_eq_ok.1 h
  refine ⟨f, compile_eq_ok.2 ⟨ts, hcuts.append hn hd.called, hd⟩, fun r r' hrow => ?_⟩
  exact evaluate_congr f fun name hname => hrow name (columns_subset_of_compile h name hname)

set_option maxRecDepth 10000 in
/-- The new column may be a part of an old one. -/
theorem compile_append_part :
    compile ["a b"] "a b" = .ok (.column "a b") ∧ isVariableName "a" = true ∧
      ∃ f', compile (["a b"] ++ ["a"]) "a b" = .ok f' ∧
        ∀ r r' : Row, (∀ name ∈ ["a b"], r.cell name = r'.cell name) →
          evaluate (.column "a b") r = f'.evaluate r' := by
  have h : compile ["a b"] "a b" = .ok (.column "a b") := by cbv
  have hn : isVariableName "a" = true := by decide
  exact ⟨h, hn, compile_append h hn⟩

end Formula

end Tabular
