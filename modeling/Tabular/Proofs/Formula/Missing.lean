import Tabular.Proofs.Formula.Safety

/-!
# Missing cells in arithmetic

A missing cell is NaN inside a formula, and arithmetic passes NaN on: the value is NaN again, and is
stored as an empty cell. Only a power may end it, since one to any power and anything to the power
zero are one, even for NaN.

* `Arithmetic` are the formulas of numbers, columns, signs and the operators of arithmetic.
* `Settled` is a power with base one or exponent zero, and `Exposed` says that a missing cell is
  passed on to the value of a formula, past all such powers.
* `eval_lost`: an exposed missing cell makes the value NaN, or the formula is refused.
* `eval_hidden`: **a missing cell that is not exposed has no influence**: any number in its place
  gives the same value.
* `evaluate_missing`: **arithmetic on a missing cell fails closed, unless a settled power hides
  it.** `onePower_not_failsClosed` is such a power.
-/

namespace Tabular

open Float.Model (UnpackedFloat)

/-! ## Arithmetic with NaN -/

theorem Scalar.ofCell_of_isMissing {c : Cell} (h : c.isMissing = true) :
    Scalar.ofCell c = .number notANumber := by
  cases c with
  | empty => rfl
  | number x => cases h
  | text s => exact if_pos h

theorem unpack_notANumber : notANumber.toModel.unpack = .notANumber := rfl

theorem neg_notANumber : -notANumber = notANumber := by decide

/-- An operation that passes NaN on before the result is packed. -/
theorem pack_notANumber_left
    (f : Float.Model.Format → UnpackedFloat → UnpackedFloat → UnpackedFloat)
    (h : ∀ u, f .binary64 .notANumber u = .notANumber) (y : Float) :
    Float.ofModel (.pack (f .binary64 notANumber.toModel.unpack y.toModel.unpack)) =
      notANumber := by
  rw [unpack_notANumber, h]
  rfl

theorem pack_notANumber_right
    (f : Float.Model.Format → UnpackedFloat → UnpackedFloat → UnpackedFloat)
    (h : ∀ u, f .binary64 u .notANumber = .notANumber) (x : Float) :
    Float.ofModel (.pack (f .binary64 x.toModel.unpack notANumber.toModel.unpack)) =
      notANumber := by
  rw [unpack_notANumber, h]
  rfl

theorem power_notANumber_left {y : Float} (h : (y == 0) = false) :
    power notANumber y = notANumber := by
  have hbase : (notANumber == 1) = false := by decide
  have hnan : notANumber.isNaN = true := by decide
  simp only [power, h, hbase, hnan, Bool.or_self, Bool.true_or, Bool.false_eq_true, if_false,
    if_true]

theorem power_notANumber_right {x : Float} (h : (x == 1) = false) :
    power x notANumber = notANumber := by
  have hexponent : (notANumber == 0) = false := by decide
  have hnan : notANumber.isNaN = true := by decide
  simp only [power, h, hexponent, hnan, Bool.or_self, Bool.or_true, Bool.false_eq_true, if_false,
    if_true]

theorem power_one {x : Float} (h : (x == 1) = true) (y : Float) : power x y = 1 := by
  rw [power, h, Bool.or_true, if_pos rfl]

theorem power_zero {y : Float} (h : (y == 0) = true) (x : Float) : power x y = 1 := by
  rw [power, h, Bool.true_or, if_pos rfl]

namespace BinaryOp

/-- The operators of arithmetic. -/
def arithmetic : List BinaryOp := [.add, .sub, .mul, .div, .pow]

variable {op : BinaryOp} {x y : Float}

theorem mem_arithmetic :
    op ∈ arithmetic ↔ op = .add ∨ op = .sub ∨ op = .mul ∨ op = .div ∨ op = .pow := by
  simp only [arithmetic, List.mem_cons, List.not_mem_nil, or_false]

/-- **Arithmetic passes NaN on**, but for a power with exponent zero. -/
theorem onNumbers_notANumber_left (hop : op ∈ arithmetic) (h : op = .pow → (y == 0) = false) :
    op.onNumbers notANumber y = .number notANumber := by
  rcases mem_arithmetic.1 hop with rfl | rfl | rfl | rfl | rfl
  · exact congrArg Scalar.number (pack_notANumber_left UnpackedFloat.add (fun _ => rfl) y)
  · exact congrArg Scalar.number (pack_notANumber_left UnpackedFloat.sub (fun _ => rfl) y)
  · exact congrArg Scalar.number (pack_notANumber_left UnpackedFloat.mul (fun _ => rfl) y)
  · exact congrArg Scalar.number (pack_notANumber_left UnpackedFloat.div (fun _ => rfl) y)
  · exact congrArg Scalar.number (power_notANumber_left (h rfl))

/-- On the other side it is a power with base one that does not pass it on. -/
theorem onNumbers_notANumber_right (hop : op ∈ arithmetic) (h : op = .pow → (x == 1) = false) :
    op.onNumbers x notANumber = .number notANumber := by
  rcases mem_arithmetic.1 hop with rfl | rfl | rfl | rfl | rfl
  · exact congrArg Scalar.number
      (pack_notANumber_right UnpackedFloat.add (fun u => by cases u <;> rfl) x)
  · exact congrArg Scalar.number
      (pack_notANumber_right UnpackedFloat.sub (fun u => by cases u <;> rfl) x)
  · exact congrArg Scalar.number
      (pack_notANumber_right UnpackedFloat.mul (fun u => by cases u <;> rfl) x)
  · exact congrArg Scalar.number
      (pack_notANumber_right UnpackedFloat.div (fun u => by cases u <;> rfl) x)
  · exact congrArg Scalar.number (power_notANumber_right (h rfl))

/-- Given a text and a number, an operator of arithmetic is refused. -/
theorem apply_mixed (hop : op ∈ arithmetic) (x : Float) (s : String) :
    op.apply (.number x) (.text s) = .error (.typeMismatch (.binary op)) ∧
      op.apply (.text s) (.number x) = .error (.typeMismatch (.binary op)) := by
  rcases mem_arithmetic.1 hop with rfl | rfl | rfl | rfl | rfl <;> exact ⟨rfl, rfl⟩

end BinaryOp

namespace Formula

/-! ## Formulas of arithmetic -/

/-- **A formula of arithmetic**: numbers, columns, signs, and the operators of arithmetic. -/
inductive Arithmetic : Formula → Prop where
  | number (x : Float) : Arithmetic (number x)
  | column (name : String) : Arithmetic (column name)
  | unary {op : UnaryOp} {a : Formula} (hop : op ≠ .not) (ha : Arithmetic a) :
      Arithmetic (unary op a)
  | binary {op : BinaryOp} {a b : Formula} (hop : op ∈ BinaryOp.arithmetic) (ha : Arithmetic a)
      (hb : Arithmetic b) : Arithmetic (binary op a b)

/-- A power with base one or exponent zero, which is one whatever the other operand is. -/
def Settled (r : Row) (op : BinaryOp) (a b : Formula) : Prop :=
  op = .pow ∧ ((∃ x, eval r a = .ok (.number x) ∧ (x == 1) = true) ∨
    ∃ y, eval r b = .ok (.number y) ∧ (y == 0) = true)

/-- **A missing cell is passed on to the value**: no settled power stands over it. -/
def Exposed (r : Row) : Formula → Prop
  | column name => (r.cell name).isMissing = true
  | unary _ a => a.Exposed r
  | binary op a b => (a.Exposed r ∨ b.Exposed r) ∧ ¬ Settled r op a b
  | _ => False

/-- There is a settled power in a formula of arithmetic. -/
def HasSettled (r : Row) : Formula → Prop
  | unary _ a => a.HasSettled r
  | binary op a b => Settled r op a b ∨ a.HasSettled r ∨ b.HasSettled r
  | _ => False

variable {r r' : Row} {f a b : Formula} {op : BinaryOp}

theorem eval_arithmetic (hop : op ∈ BinaryOp.arithmetic) :
    eval r (binary op a b) = (do op.apply (← eval r a) (← eval r b)) := by
  rcases BinaryOp.mem_arithmetic.1 hop with rfl | rfl | rfl | rfl | rfl <;> rw [eval]

/-- Without a settled power a missing cell is exposed. -/
theorem exposed_of_not_hasSettled (ha : f.Arithmetic) (hs : ¬ f.HasSettled r)
    (hm : ∃ name ∈ f.columns, (r.cell name).isMissing = true) : f.Exposed r := by
  induction ha with
  | number x =>
    obtain ⟨name, hname, -⟩ := hm
    cases hname
  | column name =>
    obtain ⟨n, hn, hmissing⟩ := hm
    rwa [List.mem_singleton.1 hn] at hmissing
  | unary _ _ ih => exact ih hs hm
  | binary _ _ _ iha ihb =>
    simp only [HasSettled, not_or] at hs
    obtain ⟨name, hname, hmissing⟩ := hm
    refine ⟨?_, hs.1⟩
    rcases List.mem_append.1 hname with hname | hname
    · exact .inl (iha hs.2.1 ⟨name, hname, hmissing⟩)
    · exact .inr (ihb hs.2.2 ⟨name, hname, hmissing⟩)

/-! ## Exposed cells -/

/-- **A value is lost**: it is NaN, or was refused for an operation given a text. -/
inductive Lost : Except FormulaError Scalar → Prop where
  | number : Lost (.ok (.number notANumber))
  | refused (op : Operation) : Lost (.error (.typeMismatch op))

/-- An operator of arithmetic on a lost value. -/
theorem lost_left (hop : op ∈ BinaryOp.arithmetic) (ha : Lost (eval r a))
    (hs : ¬ Settled r op a b) : Lost (eval r (binary op a b)) := by
  have hb := eval_refused r b
  rw [eval_arithmetic hop]
  generalize hx : eval r a = x at ha
  cases ha with
  | refused o => exact .refused o
  | number =>
    cases hy : eval r b with
    | error e =>
      obtain ⟨o, rfl⟩ := hb e hy
      exact .refused o
    | ok w =>
      cases w with
      | text s =>
        show Lost (op.apply (.number notANumber) (.text s))
        rw [(BinaryOp.apply_mixed hop _ s).1]
        exact .refused _
      | number y =>
        -- with exponent zero the power would be settled
        have hzero : op = .pow → (y == 0) = false := fun h =>
          Bool.eq_false_iff.2 fun hy0 => hs ⟨h, .inr ⟨y, hy, hy0⟩⟩
        show Lost (.ok (op.onNumbers notANumber y))
        rw [BinaryOp.onNumbers_notANumber_left hop hzero]
        exact .number

theorem lost_right (hop : op ∈ BinaryOp.arithmetic) (hb : Lost (eval r b))
    (hs : ¬ Settled r op a b) : Lost (eval r (binary op a b)) := by
  have ha := eval_refused r a
  rw [eval_arithmetic hop]
  cases hx : eval r a with
  | error e =>
    obtain ⟨o, rfl⟩ := ha e hx
    exact .refused o
  | ok v =>
    generalize eval r b = y at hb
    cases hb with
    | refused o => exact .refused o
    | number =>
      cases v with
      | text s =>
        show Lost (op.apply (.text s) (.number notANumber))
        rw [(BinaryOp.apply_mixed hop _ s).2]
        exact .refused _
      | number x =>
        -- with base one the power would be settled
        have hone : op = .pow → (x == 1) = false := fun h =>
          Bool.eq_false_iff.2 fun hx1 => hs ⟨h, .inl ⟨x, hx, hx1⟩⟩
        show Lost (.ok (op.onNumbers x notANumber))
        rw [BinaryOp.onNumbers_notANumber_right hop hone]
        exact .number

/-- **Where a missing cell is exposed, the value is lost.** -/
theorem eval_lost (ha : f.Arithmetic) (he : f.Exposed r) : Lost (eval r f) := by
  induction ha with
  | number x => cases he
  | column name =>
    rw [eval, Scalar.ofCell_of_isMissing he]
    exact .number
  | @unary op a hop _ ih =>
    have ha := ih he
    rw [eval]
    generalize eval r a = x at ha
    cases ha with
    | refused o => exact .refused o
    | number =>
      cases op with
      | not => exact absurd rfl hop
      | plus => exact .number
      | neg =>
        show Lost (.ok (.number (-notANumber)))
        rw [neg_notANumber]
        exact .number
  | binary hop _ _ iha ihb =>
    obtain ⟨ha | hb, hs⟩ := he
    · exact lost_left hop (iha ha) hs
    · exact lost_right hop (ihb hb) hs

/-- Where the value is another number than NaN, no missing cell is exposed. -/
theorem not_exposed_of_eval {x : Float} (ha : f.Arithmetic) (h : eval r f = .ok (.number x))
    (hx : x ≠ notANumber) : ¬ f.Exposed r := by
  intro he
  have hlost := eval_lost ha he
  rw [h] at hlost
  cases hlost
  exact hx rfl

/-! ## Hidden cells -/

/-- A cell with a number put in its place if it is missing. -/
inductive Completed : Cell → Cell → Prop where
  | kept {c : Cell} (h : c.isMissing = false) : Completed c c
  | filled {c : Cell} (h : c.isMissing = true) (x : Float) : Completed c (.number x)

/-- Two numbers, or one text twice. -/
inductive SameKind : Scalar → Scalar → Prop where
  | number (x y : Float) : SameKind (.number x) (.number y)
  | text (s : String) : SameKind (.text s) (.text s)

theorem SameKind.refl (v : Scalar) : SameKind v v := by
  cases v with
  | number x => exact .number x x
  | text s => exact .text s

theorem sameKind_apply {v v' w w' : Scalar} (hop : op ∈ BinaryOp.arithmetic) (hv : SameKind v v')
    (hw : SameKind w w') : EndsAlike SameKind (op.apply v w) (op.apply v' w') := by
  cases hv with
  | number x x' =>
    cases hw with
    | number y y' =>
      obtain ⟨z, hz⟩ := onNumbers_number op x y
      obtain ⟨z', hz'⟩ := onNumbers_number op x' y'
      show EndsAlike _ (.ok (op.onNumbers x y)) (.ok (op.onNumbers x' y'))
      rw [hz, hz']
      exact .ok (.number z z')
    | text s =>
      rw [(BinaryOp.apply_mixed hop x s).1, (BinaryOp.apply_mixed hop x' s).1]
      exact .error _
  | text s =>
    cases hw with
    | number y y' =>
      rw [(BinaryOp.apply_mixed hop y s).2, (BinaryOp.apply_mixed hop y' s).2]
      exact .error _
    | text t =>
      cases op.apply (.text s) (.text t) with
      | error e => exact .error e
      | ok u => exact .ok (.refl u)

/-- Numbers in the place of missing cells leave the kind of the value. -/
theorem eval_sameKind (ha : f.Arithmetic)
    (hc : ∀ name ∈ f.columns, Completed (r.cell name) (r'.cell name)) :
    EndsAlike SameKind (eval r f) (eval r' f) := by
  induction ha with
  | number x => exact .ok (.number x x)
  | column name =>
    have hcell := hc name (List.mem_singleton_self _)
    rw [eval, eval]
    generalize r.cell name = c at hcell
    generalize r'.cell name = c' at hcell
    cases hcell with
    | kept h => exact .ok (.refl _)
    | filled h x =>
      rw [Scalar.ofCell_of_isMissing h]
      exact .ok (.number notANumber x)
  | @unary op a hop _ ih =>
    rw [eval, eval]
    refine (ih hc).bind fun v v' hv => ?_
    cases op with
    | not => exact absurd rfl hop
    | neg | plus =>
      cases hv with
      | number x y => exact .ok (.number _ _)
      | text s => exact .error _
  | binary hop _ _ iha ihb =>
    rw [eval_arithmetic hop, eval_arithmetic hop]
    obtain ⟨hca, hcb⟩ := List.forall_mem_append.1 hc
    refine (iha hca).bind fun v v' hv => ?_
    exact (ihb hcb).bind fun w w' hw => sameKind_apply hop hv hw

/-- **A missing cell that is not exposed has no influence**: with any numbers in the place of
missing cells the value is the same. -/
theorem eval_hidden (ha : f.Arithmetic)
    (hc : ∀ name ∈ f.columns, Completed (r.cell name) (r'.cell name)) (he : ¬ f.Exposed r) :
    eval r f = eval r' f := by
  induction ha with
  | number x => rfl
  | column name =>
    have hcell := hc name (List.mem_singleton_self _)
    have hpresent : ¬ (r.cell name).isMissing = true := he
    rw [eval, eval]
    generalize r.cell name = c at hcell hpresent
    generalize r'.cell name = c' at hcell
    cases hcell with
    | kept h => rfl
    | filled h x => exact absurd h hpresent
  | unary _ _ ih => rw [eval, eval, ih hc he]
  | @binary op a b hop ha hb iha ihb =>
    obtain ⟨hca, hcb⟩ := List.forall_mem_append.1 hc
    rw [eval_arithmetic hop, eval_arithmetic hop]
    by_cases hs : Settled r op a b
    · -- what settles a power is not lost, so it is not exposed itself
      obtain ⟨rfl, ⟨x, hx, hone⟩ | ⟨y, hy, hzero⟩⟩ := hs
      · have hne : x ≠ notANumber := by
          rintro rfl
          cases hone
        rw [← iha hca (not_exposed_of_eval ha hx hne), hx]
        refine (eval_sameKind hb hcb).bind_eq fun w w' hw => ?_
        cases hw with
        | text s => rfl
        | number y y' =>
          show Except.ok (Scalar.number (power x y)) = .ok (.number (power x y'))
          rw [power_one hone, power_one hone]
      · have hne : y ≠ notANumber := by
          rintro rfl
          cases hzero
        rw [← ihb hcb (not_exposed_of_eval hb hy hne), hy]
        refine (eval_sameKind ha hca).bind_eq fun v v' hv => ?_
        cases hv with
        | text s => rfl
        | number x x' =>
          show Except.ok (Scalar.number (power x y)) = .ok (.number (power x' y))
          rw [power_zero hzero, power_zero hzero]
    · have hnone : ¬ (a.Exposed r ∨ b.Exposed r) := fun h => he ⟨h, hs⟩
      rw [not_or] at hnone
      rw [iha hca hnone.1, ihb hcb hnone.2]

/-! ## The cell of a formula -/

/-- Arithmetic gives a text only when it joins texts. -/
theorem isMissing_of_eval_text {s : String} (ha : f.Arithmetic) (h : eval r f = .ok (.text s)) :
    ∀ name ∈ f.columns, (r.cell name).isMissing = false := by
  induction ha generalizing s with
  | number x => cases h
  | column name =>
    intro n hn
    rw [List.mem_singleton.1 hn, Bool.eq_false_iff]
    intro hmissing
    rw [eval, Scalar.ofCell_of_isMissing hmissing] at h
    cases h
  | @unary op a hop _ _ =>
    rw [eval] at h
    obtain ⟨v, -, h⟩ := bind_eq_ok.1 h
    cases op with
    | not => exact absurd rfl hop
    | neg | plus =>
      obtain ⟨x, -, h⟩ := bind_eq_ok.1 h
      cases h
  | @binary op a b hop _ _ iha ihb =>
    rw [eval_arithmetic hop] at h
    obtain ⟨v, hv, h⟩ := bind_eq_ok.1 h
    obtain ⟨w, hw, h⟩ := bind_eq_ok.1 h
    cases v with
    | number x =>
      cases w with
      | number y =>
        obtain ⟨z, hz⟩ := onNumbers_number op x y
        have h : op.onNumbers x y = .text s := Except.ok.inj h
        rw [hz] at h
        cases h
      | text t =>
        rw [(BinaryOp.apply_mixed hop x t).1] at h
        cases h
    | text t =>
      cases w with
      | number y =>
        rw [(BinaryOp.apply_mixed hop y t).2] at h
        cases h
      | text u => exact List.forall_mem_append.2 ⟨iha hv, ihb hw⟩

/-- **An evaluation fails closed**: it gives an empty cell, or is refused for an operation given a
text. -/
inductive FailsClosed : Except FormulaError Cell → Prop where
  | empty : FailsClosed (.ok .empty)
  | refused (op : Operation) : FailsClosed (.error (.typeMismatch op))

/-- A lost value is not stored. -/
theorem Lost.failsClosed (h : Lost (eval r f)) : FailsClosed (f.evaluate r) := by
  unfold evaluate
  generalize eval r f = x at h
  cases h with
  | number => exact .empty
  | refused op => exact .refused op

/-- **Arithmetic on a missing cell fails closed, unless a settled power hides it.** Without a
settled power the missing cell is exposed, and an exposed one leaves an empty cell or has the
formula refused. One that is not exposed has no influence: with any numbers in the place of missing
cells the formula gives the same. It never gives a text, and is only refused for an operation given
a text. -/
theorem evaluate_missing (ha : f.Arithmetic) (r : Row)
    (hm : ∃ name ∈ f.columns, (r.cell name).isMissing = true) :
    (¬ f.HasSettled r → f.Exposed r) ∧
      (f.Exposed r → FailsClosed (f.evaluate r)) ∧
      (¬ f.Exposed r → ∀ r' : Row, (∀ name ∈ f.columns, Completed (r.cell name) (r'.cell name)) →
        f.evaluate r' = f.evaluate r) ∧
      (∀ s, f.evaluate r ≠ .ok (.text s)) ∧
      RefusedOnly GivenText (f.evaluate r) := by
  refine ⟨fun hs => exposed_of_not_hasSettled ha hs hm, fun he => (eval_lost ha he).failsClosed,
    ?_, ?_, (eval_refused r f).map⟩
  · intro he r' hc
    unfold evaluate
    rw [eval_hidden ha hc he]
  · intro s h
    obtain ⟨v, hv, h⟩ := map_eq_ok.1 h
    cases v with
    | number x =>
      rw [toCell_number] at h
      split at h <;> cases h
    | text t =>
      obtain ⟨name, hname, hmissing⟩ := hm
      rw [isMissing_of_eval_text ha hv name hname] at hmissing
      cases hmissing

theorem compile_of_derives {columns : List String} {source : String} {ts : List Lexeme}
    (h : Lexeme.ofSource columns source = .ok ts) (hd : Derives .ternary (tokens ts) f) :
    compile columns source = .ok f := by
  rw [compile, h]
  exact parse_eq_ok.2 hd

/-- A power of two columns. -/
def columnPower : Formula := .binary .pow (.column "a") (.column "b")

/-- One to the power of a column. -/
def onePower : Formula := .binary .pow (.number 1) (.column "a")

theorem compile_columnPower : compile ["a", "b"] "a ^ b" = .ok columnPower := by
  have hcut : Lexeme.ofSource ["a", "b"] "a ^ b" =
      .ok [⟨.column "a", 0⟩, ⟨.symbol .caret, 2⟩, ⟨.column "b", 4⟩] := by decide +kernel
  have hpower : Derives .power [.column "a", .symbol .caret, .column "b"] columnPower :=
    .power (.column "a") .caret (.unsigned (.base (.column "b")))
  exact compile_of_derives hcut hpower.formula

theorem compile_onePower : compile ["a"] "1 ^ a" = .ok onePower := by
  have hcut : Lexeme.ofSource ["a"] "1 ^ a" =
      .ok [⟨.number 1, 0⟩, ⟨.symbol .caret, 2⟩, ⟨.column "a", 4⟩] := by decide +kernel
  have hpower : Derives .power [.number 1, .symbol .caret, .column "a"] onePower :=
    .power (.number 1) .caret (.unsigned (.base (.column "a")))
  exact compile_of_derives hcut hpower.formula

theorem arithmetic_columnPower : columnPower.Arithmetic :=
  .binary (by decide) (.column "a") (.column "b")

theorem arithmetic_onePower : onePower.Arithmetic := .binary (by decide) (.number 1) (.column "a")

/-- A power of two missing cells, one an empty text and one not stored, is not settled. -/
theorem evaluate_missing_columnPower :
    compile ["a", "b"] "a ^ b" = .ok columnPower ∧
      columnPower.Arithmetic ∧
      (∃ name ∈ columnPower.columns, ((Row.ofList [("a", .text "")]).cell name).isMissing = true) ∧
      ¬ columnPower.HasSettled (.ofList [("a", .text "")]) ∧
      FailsClosed (columnPower.evaluate (.ofList [("a", .text "")])) := by
  have ha : eval (.ofList [("a", .text "")]) (.column "a") = .ok (.number notANumber) := rfl
  have hb : eval (.ofList [("a", .text "")]) (.column "b") = .ok (.number notANumber) := rfl
  have hm : ∃ name ∈ columnPower.columns,
      ((Row.ofList [("a", .text "")]).cell name).isMissing = true :=
    ⟨"a", List.mem_cons_self, by decide⟩
  have hs : ¬ columnPower.HasSettled (.ofList [("a", .text "")]) := by
    rintro (⟨-, ⟨x, hx, hone⟩ | ⟨y, hy, hzero⟩⟩ | h | h)
    · rw [ha] at hx
      cases hx
      cases hone
    · rw [hb] at hy
      cases hy
      cases hzero
    · exact h
    · exact h
  obtain ⟨hexposed, hcloses, -⟩ := evaluate_missing arithmetic_columnPower _ hm
  exact ⟨compile_columnPower, arithmetic_columnPower, hm, hs, hcloses (hexposed hs)⟩

/-- **One to the power of a missing cell is one**: the missing cell is hidden, and the evaluation
does not fail closed. -/
theorem onePower_not_failsClosed :
    compile ["a"] "1 ^ a" = .ok onePower ∧
      onePower.Arithmetic ∧
      (∃ name ∈ onePower.columns, ((Row.ofList [("a", .empty)]).cell name).isMissing = true) ∧
      onePower.evaluate (.ofList [("a", .empty)]) = .ok (.number 1) ∧
      ¬ FailsClosed (onePower.evaluate (.ofList [("a", .empty)])) := by
  have hone : onePower.evaluate (.ofList [("a", .empty)]) = .ok (.number 1) := by
    show Except.ok (Scalar.toCell (.number (power 1 _))) = _
    rw [power_one (by decide)]
    rfl
  refine ⟨compile_onePower, arithmetic_onePower, ⟨"a", List.mem_cons_self, by decide⟩, hone, ?_⟩
  rw [hone]
  intro h
  cases h

end Formula

end Tabular
