import Tabular.Proofs.Formula.Longest
import Tabular.Proofs.Formula.NewColumn

/-!
# Formulas do not go wrong

A formula that is compiled reads columns of its table only, and every function in it has as many
arguments as it takes. So nothing is looked up that is not there.

* `Formula.evalIndexed` is the value of a formula with columns and arguments looked up by their
  indices, and it may go wrong.
* `Formula.Bound`: the columns are there and the counts of arguments are right.
  `Derives.bound`: this is so in a formula that is derived. `evalIndexed_eq`: then nothing goes
  wrong.
* `eval_refused`: a row is only refused for an operation that is given a text.
* `eval_number`: over numbers and missing cells a formula without texts is a number.
* `evaluate_safe`: **a compiled formula does not go wrong.**
-/

namespace Tabular

open Checked (safe access)

/-- A function of numbers, with the second argument looked up by its index. -/
def Func.applyIndexed (f : Func) (args : List Float) : Checked FormulaError Float :=
  match f with
  | .pow => do
    let b ← access args[1]?
    return power (args.headD notANumber) b
  | f => pure (f.apply args)

/-- With as many arguments as it takes, a function finds them all. -/
theorem Func.applyIndexed_eq {f : Func} {args : List Float} (h : f.admits args.length = true) :
    f.applyIndexed args = safe (.ok (f.apply args)) := by
  cases f with
  | pow =>
    have hlen : args.length = 2 := by simpa [Func.admits] using h
    obtain ⟨a, b, rfl⟩ := List.length_eq_two.1 hlen
    rfl
  | _ => rfl

namespace Formula

mutual

/-- **The value of a formula in a row, looked up by indices**: columns among given names, and
arguments in their list. -/
def evalIndexed (names : List String) (r : Row) : Formula → Checked FormulaError Scalar
  | number x => pure (.number x)
  | text s => pure (.text s)
  | column name => do
    let name ← access names[names.idxOf name]?
    return .ofCell (r.cell name)
  | unary op a => do
    let v ← evalIndexed names r a
    match op with
    | .not => return .flag !v.truthy
    | .neg => return .number (-(← safe (v.numberFor (.unary .neg))))
    | .plus => return .number (← safe (v.numberFor (.unary .plus)))
  | binary op a b => do
    let v ← evalIndexed names r a
    match op with
    | .and => if v.truthy then return .flag (← evalIndexed names r b).truthy else return .flag false
    | .or => if v.truthy then return .flag true else return .flag (← evalIndexed names r b).truthy
    | op => safe (op.apply v (← evalIndexed names r b))
  | ternary c a b => do
    if (← evalIndexed names r c).truthy then evalIndexed names r a else evalIndexed names r b
  | call .cond args => choiceIndexed names r args
  | call .missing args => missingIndexed names r args
  | call f args => do return .number (← f.applyIndexed (← numbersIndexed f names r args))

/-- The chosen one of the second and the third argument. -/
def choiceIndexed (names : List String) (r : Row) : List Formula → Checked FormulaError Scalar
  | [] => access none
  | [c] => do
    let _ ← evalIndexed names r c
    access none
  | [c, a] => do
    if (← evalIndexed names r c).truthy then evalIndexed names r a else access none
  | c :: a :: b :: _ => do
    if (← evalIndexed names r c).truthy then evalIndexed names r a else evalIndexed names r b

/-- Whether the first argument is missing. -/
def missingIndexed (names : List String) (r : Row) : List Formula → Checked FormulaError Scalar
  | [] => access none
  | a :: _ => do return .flag (← evalIndexed names r a).isMissing

/-- The arguments of a function of numbers. -/
def numbersIndexed (f : Func) (names : List String) (r : Row) :
    List Formula → Checked FormulaError (List Float)
  | [] => pure []
  | a :: as => do
    let x ← safe ((← evalIndexed names r a).numberFor (.function f))
    return x :: (← numbersIndexed f names r as)

end

mutual

/-- **A formula is bound to columns**: those that it reads are among them, and every function has
as many arguments as it takes. -/
def Bound (names : List String) : Formula → Prop
  | number _ | text _ => True
  | column name => name ∈ names
  | unary _ a => a.Bound names
  | binary _ a b => a.Bound names ∧ b.Bound names
  | ternary c a b => c.Bound names ∧ a.Bound names ∧ b.Bound names
  | call f args => f.admits args.length = true ∧ BoundAll names args

/-- Arguments that are bound to columns. -/
def BoundAll (names : List String) : List Formula → Prop
  | [] => True
  | a :: as => a.Bound names ∧ BoundAll names as

end

mutual

/-- A formula is bound to the columns among its tokens. -/
theorem Derives.bound {names : List String} {l : Level} {u : List Token} {e : Formula}
    (h : Derives l u e) (hu : ∀ name ∈ columnTokens u, name ∈ names) : e.Bound names := by
  match h with
  | .disjunction h | .operand h | .unsigned h | .base h => exact h.bound hu
  | .choice hc ha hb =>
    simp only [columnTokens_append, columnTokens_symbol, List.forall_mem_append] at hu
    exact ⟨hc.bound hu.1, ha.bound hu.2.1, hb.bound hu.2.2⟩
  | .chain ha _ hb | .power ha _ hb =>
    simp only [columnTokens_append, columnTokens_symbol, List.forall_mem_append] at hu
    exact ⟨ha.bound hu.1, hb.bound hu.2⟩
  | .sign _ h =>
    rw [columnTokens_symbol] at hu
    exact h.bound hu
  | .number _ | .text _ => trivial
  | .column name => exact hu name (List.mem_singleton_self _)
  | .parens h =>
    simp only [columnTokens_append, columnTokens_symbol, List.forall_mem_append] at hu
    exact h.bound hu.1
  | .call _ h hn =>
    simp only [columnTokens_append, columnTokens_symbol, columnTokens_word,
      List.forall_mem_append] at hu
    exact ⟨hn, h.bound hu.1⟩

theorem DerivesAll.bound {names : List String} {u : List Token} {args : List Formula}
    (h : DerivesAll u args) (hu : ∀ name ∈ columnTokens u, name ∈ names) :
    BoundAll names args := by
  match h with
  | .one h => exact ⟨h.bound hu, trivial⟩
  | .more h hs =>
    simp only [columnTokens_append, columnTokens_symbol, List.forall_mem_append] at hu
    exact ⟨h.bound hu.1, hs.bound hu.2⟩

end

/-! ## Nothing goes wrong -/

variable {names : List String}

/-- A name stands at its first place. -/
theorem getElem?_idxOf_of_mem {name : String} (h : name ∈ names) :
    names[names.idxOf name]? = some name := by
  rw [List.getElem?_eq_getElem (List.idxOf_lt_length_of_mem h), List.getElem_idxOf]

theorem length_evalNumbers {f : Func} {r : Row} {args : List Formula} {xs : List Float}
    (h : evalNumbers f r args = .ok xs) : xs.length = args.length := by
  induction args generalizing xs with
  | nil =>
    cases h
    rfl
  | cons a as ih =>
    rw [evalNumbers, bind_eq_ok] at h
    obtain ⟨v, -, h⟩ := h
    obtain ⟨x, -, h⟩ := bind_eq_ok.1 h
    obtain ⟨ys, hys, h⟩ := bind_eq_ok.1 h
    cases h
    rw [List.length_cons, List.length_cons, ih hys]

/-- A function of numbers finds its arguments, since there are as many numbers as formulas. -/
theorem callIndexed_eq {f : Func} {r : Row} {args : List Formula}
    (hn : f.admits args.length = true)
    (hargs : numbersIndexed f names r args = safe (evalNumbers f r args)) :
    (do return Scalar.number (← f.applyIndexed (← numbersIndexed f names r args))) =
      safe (do return Scalar.number (f.apply (← evalNumbers f r args))) := by
  rw [hargs]
  refine Checked.safe_bind fun xs hxs => ?_
  rw [← length_evalNumbers hxs] at hn
  rw [Func.applyIndexed_eq hn]
  rfl

mutual

/-- **Where a formula is bound to the columns, no index is out of range.** -/
theorem evalIndexed_eq (r : Row) (e : Formula) (h : e.Bound names) :
    evalIndexed names r e = safe (eval r e) := by
  match e with
  | number _ | text _ => rfl
  | column name =>
    rw [evalIndexed, Checked.access_bind (getElem?_idxOf_of_mem h)]
    rfl
  | unary op a =>
    rw [evalIndexed, eval, evalIndexed_eq r a h]
    refine Checked.safe_bind fun v _ => ?_
    cases op with
    | not => rfl
    | neg | plus => exact Checked.safe_bind fun x _ => rfl
  | binary op a b =>
    have hb := evalIndexed_eq r b h.2
    rw [evalIndexed, eval, evalIndexed_eq r a h.1]
    refine Checked.safe_bind fun v _ => ?_
    rw [hb]
    cases op with
    | and | or =>
      -- the second operand may be left out
      dsimp only
      split
      · first | rfl | exact Checked.safe_bind fun w _ => rfl
      · first | rfl | exact Checked.safe_bind fun w _ => rfl
    | _ => exact Checked.safe_bind fun w _ => rfl
  | ternary c a b =>
    have ha := evalIndexed_eq r a h.2.1
    have hb := evalIndexed_eq r b h.2.2
    rw [evalIndexed, eval, evalIndexed_eq r c h.1]
    refine Checked.safe_bind fun v _ => ?_
    rw [ha, hb]
    split <;> rfl
  | call f args =>
    obtain ⟨hn, hargs⟩ := h
    have hnumbers := callIndexed_eq hn (numbersIndexed_eq f r args hargs)
    cases f with
    | cond =>
      have hlen : args.length = 3 := by simpa [Func.admits] using hn
      rw [evalIndexed, eval]
      exact choiceIndexed_eq r args hlen hargs
    | missing =>
      have hlen : args.length = 1 := by simpa [Func.admits] using hn
      rw [evalIndexed, eval]
      exact missingIndexed_eq r args hlen hargs
    | _ => exact hnumbers

theorem choiceIndexed_eq (r : Row) (args : List Formula) (hlen : args.length = 3)
    (h : BoundAll names args) : choiceIndexed names r args = safe (evalChoice r args) := by
  match args with
  | [c, a, b] =>
    have ha := evalIndexed_eq r a h.2.1
    have hb := evalIndexed_eq r b h.2.2.1
    rw [choiceIndexed, evalChoice, evalIndexed_eq r c h.1]
    refine Checked.safe_bind fun v _ => ?_
    rw [ha, hb]
    split <;> rfl

theorem missingIndexed_eq (r : Row) (args : List Formula) (hlen : args.length = 1)
    (h : BoundAll names args) : missingIndexed names r args = safe (evalMissing r args) := by
  match args with
  | a :: _ =>
    rw [missingIndexed, evalMissing, evalIndexed_eq r a h.1]
    exact Checked.safe_bind fun v _ => rfl

theorem numbersIndexed_eq (f : Func) (r : Row) (args : List Formula)
    (h : BoundAll names args) : numbersIndexed f names r args = safe (evalNumbers f r args) := by
  match args with
  | [] => rfl
  | a :: as =>
    have has := numbersIndexed_eq f r as h.2
    rw [numbersIndexed, evalNumbers, evalIndexed_eq r a h.1]
    refine Checked.safe_bind fun v _ => ?_
    refine Checked.safe_bind fun x _ => ?_
    rw [has]
    exact Checked.safe_bind fun xs _ => rfl

end

/-! ## What a row is refused for -/

/-- The complaint about an operation that is given a text. -/
def GivenText (e : FormulaError) : Prop := ∃ op, e = .typeMismatch op

theorem numberFor_refused (op : Operation) (v : Scalar) :
    RefusedOnly GivenText (v.numberFor op) := by
  cases v with
  | number x => exact .ok x
  | text s => exact .error ⟨op, rfl⟩

theorem apply_refused (op : BinaryOp) (v w : Scalar) : RefusedOnly GivenText (op.apply v w) := by
  cases v with
  | number x =>
    cases w with
    | number y => exact .ok _
    | text t => cases op <;> first | exact .ok _ | exact .error ⟨_, rfl⟩
  | text s =>
    cases w with
    | number y => cases op <;> first | exact .ok _ | exact .error ⟨_, rfl⟩
    | text t => cases op <;> first | exact .ok _ | exact .error ⟨_, rfl⟩

mutual

/-- **A row is only refused for an operation that is given a text.** -/
theorem eval_refused (r : Row) (e : Formula) : RefusedOnly GivenText (eval r e) := by
  match e with
  | number _ | text _ | column _ => exact .ok _
  | unary op a =>
    rw [eval]
    refine (eval_refused r a).bind fun v => ?_
    cases op with
    | not => exact .ok _
    | neg | plus => exact (numberFor_refused _ v).bind fun x => .ok _
  | binary op a b =>
    have hb := eval_refused r b
    rw [eval]
    refine (eval_refused r a).bind fun v => ?_
    cases op with
    | and | or =>
      dsimp only
      split
      · first | exact .ok _ | exact hb.bind fun w => .ok _
      · first | exact .ok _ | exact hb.bind fun w => .ok _
    | _ => exact hb.bind fun w => apply_refused _ v w
  | ternary c a b =>
    have ha := eval_refused r a
    have hb := eval_refused r b
    rw [eval]
    refine (eval_refused r c).bind fun v => ?_
    split
    · exact ha
    · exact hb
  | call f args =>
    have hnumbers := evalNumbers_refused f r args
    cases f with
    | cond =>
      rw [eval]
      exact evalChoice_refused r args
    | missing =>
      rw [eval]
      exact evalMissing_refused r args
    | _ => exact hnumbers.bind fun xs => .ok _

theorem evalChoice_refused (r : Row) (args : List Formula) :
    RefusedOnly GivenText (evalChoice r args) := by
  match args with
  | [c, a, b] =>
    have ha := eval_refused r a
    have hb := eval_refused r b
    rw [evalChoice]
    refine (eval_refused r c).bind fun v => ?_
    split
    · exact ha
    · exact hb
  | [] | [_] | [_, _] | _ :: _ :: _ :: _ :: _ => exact .ok _

theorem evalMissing_refused (r : Row) (args : List Formula) :
    RefusedOnly GivenText (evalMissing r args) := by
  match args with
  | [] => exact .ok _
  | a :: _ =>
    rw [evalMissing]
    exact (eval_refused r a).bind fun v => .ok _

theorem evalNumbers_refused (f : Func) (r : Row) (args : List Formula) :
    RefusedOnly GivenText (evalNumbers f r args) := by
  match args with
  | [] => exact .ok _
  | a :: as =>
    have has := evalNumbers_refused f r as
    rw [evalNumbers]
    refine (eval_refused r a).bind fun v => ?_
    refine (numberFor_refused _ v).bind fun x => ?_
    exact has.bind fun xs => .ok _

end

/-! ## Formulas over numbers -/

mutual

/-- The texts that are written in a formula, in order. -/
def texts : Formula → List String
  | number _ | column _ => []
  | text s => [s]
  | unary _ a => a.texts
  | binary _ a b => a.texts ++ b.texts
  | ternary c a b => c.texts ++ (a.texts ++ b.texts)
  | call _ args => textsAll args

/-- The texts that are written in the arguments of a call, in order. -/
def textsAll : List Formula → List String
  | [] => []
  | a :: as => a.texts ++ textsAll as

end

/-- **The columns hold numbers in a row**, or else nothing: a text is only there when it is
empty. -/
def Numeric (r : Row) (names : List String) : Prop :=
  ∀ name ∈ names, ∀ s, r.cell name = .text s → s = ""

variable {r : Row}

theorem numeric_append {names' : List String} :
    Numeric r (names ++ names') ↔ Numeric r names ∧ Numeric r names' := List.forall_mem_append

theorem onNumbers_number (op : BinaryOp) (x y : Float) : ∃ z, op.onNumbers x y = .number z := by
  cases op <;> exact ⟨_, rfl⟩

mutual

/-- **Over numbers and missing cells, a formula without texts is a number.** -/
theorem eval_number (e : Formula) (ht : e.texts = []) (hr : Numeric r e.columns) :
    ∃ x, eval r e = .ok (.number x) := by
  match e with
  | number x => exact ⟨x, rfl⟩
  | text s => cases ht
  | column name =>
    cases hcell : r.cell name with
    | number x => exact ⟨x, by rw [eval, hcell]; rfl⟩
    | empty => exact ⟨notANumber, by rw [eval, hcell]; rfl⟩
    | text s =>
      obtain rfl := hr name (List.mem_singleton_self _) s hcell
      exact ⟨notANumber, by rw [eval, hcell]; rfl⟩
  | unary op a =>
    obtain ⟨x, hx⟩ := eval_number a ht hr
    rw [eval, hx]
    cases op <;> exact ⟨_, rfl⟩
  | binary op a b =>
    obtain ⟨hta, htb⟩ := List.append_eq_nil_iff.1 ht
    obtain ⟨hra, hrb⟩ := numeric_append.1 hr
    obtain ⟨x, hx⟩ := eval_number a hta hra
    obtain ⟨y, hy⟩ := eval_number b htb hrb
    obtain ⟨z, hz⟩ := onNumbers_number op x y
    rw [eval, hx, hy]
    cases op with
    | and =>
      show ∃ z, (if (Scalar.number x).truthy then _ else _) = _
      split <;> exact ⟨_, rfl⟩
    | or =>
      show ∃ z, (if (Scalar.number x).truthy then _ else _) = _
      split <;> exact ⟨_, rfl⟩
    | _ => exact ⟨z, congrArg Except.ok hz⟩
  | ternary c a b =>
    obtain ⟨htc, ht⟩ := List.append_eq_nil_iff.1 ht
    obtain ⟨hta, htb⟩ := List.append_eq_nil_iff.1 ht
    obtain ⟨hrc, hr⟩ := numeric_append.1 hr
    obtain ⟨hra, hrb⟩ := numeric_append.1 hr
    obtain ⟨z, hz⟩ := eval_number c htc hrc
    have ha := eval_number a hta hra
    have hb := eval_number b htb hrb
    rw [eval, hz]
    show ∃ x, (if (Scalar.number z).truthy then eval r a else eval r b) = _
    split
    · exact ha
    · exact hb
  | call f args =>
    obtain ⟨xs, hxs⟩ := evalNumbers_ok f args ht hr
    have hnumbers : (do return Scalar.number (f.apply (← evalNumbers f r args))) =
        (.ok (.number (f.apply xs)) : Except FormulaError Scalar) := by
      rw [hxs]
      rfl
    cases f with
    | cond =>
      rw [eval]
      exact evalChoice_number args ht hr
    | missing =>
      rw [eval]
      exact evalMissing_number args ht hr
    | _ => exact ⟨_, hnumbers⟩

theorem evalChoice_number (args : List Formula) (ht : textsAll args = [])
    (hr : Numeric r (columnsAll args)) : ∃ x, evalChoice r args = .ok (.number x) := by
  match args with
  | [c, a, b] =>
    obtain ⟨htc, ht⟩ := List.append_eq_nil_iff.1 ht
    obtain ⟨hta, ht⟩ := List.append_eq_nil_iff.1 ht
    obtain ⟨htb, -⟩ := List.append_eq_nil_iff.1 ht
    obtain ⟨hrc, hr⟩ := numeric_append.1 hr
    obtain ⟨hra, hr⟩ := numeric_append.1 hr
    obtain ⟨hrb, -⟩ := numeric_append.1 hr
    obtain ⟨z, hz⟩ := eval_number c htc hrc
    have ha := eval_number a hta hra
    have hb := eval_number b htb hrb
    rw [evalChoice, hz]
    show ∃ x, (if (Scalar.number z).truthy then eval r a else eval r b) = _
    split
    · exact ha
    · exact hb
  | [] | [_] | [_, _] | _ :: _ :: _ :: _ :: _ => exact ⟨_, rfl⟩

theorem evalMissing_number (args : List Formula) (ht : textsAll args = [])
    (hr : Numeric r (columnsAll args)) : ∃ x, evalMissing r args = .ok (.number x) := by
  match args with
  | [] => exact ⟨_, rfl⟩
  | a :: as =>
    obtain ⟨hta, -⟩ := List.append_eq_nil_iff.1 ht
    obtain ⟨hra, -⟩ := numeric_append.1 hr
    obtain ⟨x, hx⟩ := eval_number a hta hra
    rw [evalMissing, hx]
    exact ⟨_, rfl⟩

theorem evalNumbers_ok (f : Func) (args : List Formula) (ht : textsAll args = [])
    (hr : Numeric r (columnsAll args)) : ∃ xs, evalNumbers f r args = .ok xs := by
  match args with
  | [] => exact ⟨[], rfl⟩
  | a :: as =>
    obtain ⟨hta, htas⟩ := List.append_eq_nil_iff.1 ht
    obtain ⟨hra, hras⟩ := numeric_append.1 hr
    obtain ⟨x, hx⟩ := eval_number a hta hra
    obtain ⟨xs, hxs⟩ := evalNumbers_ok f as htas hras
    rw [evalNumbers, hx, hxs]
    exact ⟨x :: xs, rfl⟩

end

/-! ## Cells -/

/-- A cell that is empty, or holds a finite number. -/
def FiniteCell (c : Cell) : Prop := c = .empty ∨ ∃ x : Float, c = .number x ∧ x.isFinite = true

theorem toCell_number (x : Float) :
    (Scalar.number x).toCell = if x.isFinite = true then .number x else .empty := rfl

theorem finiteCell_of_number (x : Float) : FiniteCell (Scalar.number x).toCell := by
  rw [toCell_number]
  by_cases hx : x.isFinite = true
  · exact .inr ⟨x, if_pos hx, hx⟩
  · exact .inl (if_neg hx)

/-- A number in a cell of a formula is finite. -/
theorem isFinite_of_toCell {v : Scalar} {x : Float} (h : v.toCell = .number x) :
    x.isFinite = true := by
  cases v with
  | text s => cases h
  | number y =>
    rw [toCell_number] at h
    by_cases hy : y.isFinite = true
    · rw [if_pos hy] at h
      cases h
      exact hy
    · rw [if_neg hy] at h
      cases h

/-- A compiled formula reads columns of its table only. -/
theorem bound_of_compile {columns : List String} {source : String} {f : Formula}
    (h : compile columns source = .ok f) : f.Bound (Token.bindings columns) := by
  obtain ⟨ts, hcuts, hd⟩ := compile_eq_ok.1 h
  exact hd.bound fun name hname => Token.mem_bindings.2 (hcuts.columnTokens_subset name hname)

/-- **A compiled formula does not go wrong.** In every row it has a value or is refused without an
index out of range, it is only refused for an operation that is given a text, and a number that it
gives is finite. Without texts, in a row where the columns that it reads hold numbers or nothing,
it is not refused, and gives a finite number or an empty cell. -/
theorem evaluate_safe {columns : List String} {source : String} {f : Formula}
    (h : compile columns source = .ok f) (r : Row) :
    evalIndexed (Token.bindings columns) r f = safe (f.eval r) ∧
      RefusedOnly GivenText (f.evaluate r) ∧
      (∀ x, f.evaluate r = .ok (.number x) → x.isFinite = true) ∧
      (f.texts = [] → Numeric r f.columns → ∃ c, f.evaluate r = .ok c ∧ FiniteCell c) := by
  refine ⟨evalIndexed_eq r f (bound_of_compile h), (eval_refused r f).map, ?_, ?_⟩
  · intro x hx
    obtain ⟨v, -, hv⟩ := map_eq_ok.1 hx
    exact isFinite_of_toCell hv
  · intro ht hr
    obtain ⟨x, hx⟩ := eval_number f ht hr
    refine ⟨(Scalar.number x).toCell, ?_, finiteCell_of_number x⟩
    rw [evaluate, hx]
    rfl

set_option maxRecDepth 10000 in
/-- A power of an empty text and a missing cell. -/
theorem evaluate_safe_pow :
    compile ["a", "b"] "pow(a, b)" = .ok (.call .pow [.column "a", .column "b"]) ∧
      texts (.call .pow [.column "a", .column "b"]) = [] ∧
      Numeric (.ofList [("a", .text "")]) (columns (.call .pow [.column "a", .column "b"])) ∧
      ∃ c, evaluate (.call .pow [.column "a", .column "b"]) (.ofList [("a", .text "")]) = .ok c ∧
        FiniteCell c := by
  have h : compile ["a", "b"] "pow(a, b)" = .ok (.call .pow [.column "a", .column "b"]) := by cbv
  have ht : texts (.call .pow [.column "a", .column "b"]) = [] := rfl
  have hr : Numeric (.ofList [("a", .text "")])
      (columns (.call .pow [.column "a", .column "b"])) := by
    have ha : (Row.ofList [("a", .text "")]).cell "a" = .text "" := by decide
    have hb : (Row.ofList [("a", .text "")]).cell "b" = .empty := by decide
    intro name hname s hs
    have hname : name = "a" ∨ name = "b" := by simpa [columns, columnsAll] using hname
    rcases hname with rfl | rfl
    · rw [ha] at hs
      exact (Cell.text.inj hs).symm
    · rw [hb] at hs
      cases hs
  exact ⟨h, ht, hr, (evaluate_safe h (.ofList [("a", .text "")])).2.2.2 ht hr⟩

end Formula

end Tabular
