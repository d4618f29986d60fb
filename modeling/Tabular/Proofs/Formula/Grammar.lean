import Tabular.Formula.Parser

/-!
# The grammar of formulas

What a formula is, as a relation between tokens and trees that knows of no reading order.

* `Level` lists the levels of the grammar, and `Chains`, `Signs` and `Raises` their operators.
* `Derives` relates a list of tokens to the trees that it derives at a level, and `DerivesAll`
  the arguments of a call to theirs.
* `Level.depth` and `Symbol.reach` order the levels: a symbol stands between the parts of a
  phrase only from its reach on.
-/

namespace Tabular

namespace Formula

/-- The levels of the grammar, loosest first. -/
inductive Level where
  | ternary
  | tier (t : Tier)
  | unary
  | power
  | primary

/-- The level of the operands of a tier. -/
def operandLevel : Tier → Level
  | .disjunction => .tier .conjunction
  | .conjunction => .tier .comparison
  | .comparison => .tier .sum
  | .sum => .tier .product
  | .product => .unary

/-- The operators that chain the operands of a tier. -/
inductive Chains : Tier → Symbol → BinaryOp → Prop where
  | or : Chains .disjunction .or .or
  | orOr : Chains .disjunction .orOr .or
  | and : Chains .conjunction .and .and
  | andAnd : Chains .conjunction .andAnd .and
  | lt : Chains .comparison .lt .lt
  | le : Chains .comparison .le .le
  | gt : Chains .comparison .gt .gt
  | ge : Chains .comparison .ge .ge
  | eq : Chains .comparison .eq .eq
  | ne : Chains .comparison .ne .ne
  | add : Chains .sum .plus .add
  | sub : Chains .sum .minus .sub
  | mul : Chains .product .star .mul
  | div : Chains .product .slash .div

/-- The operators in front of a unary formula. -/
inductive Signs : Symbol → UnaryOp → Prop where
  | minus : Signs .minus .neg
  | plus : Signs .plus .plus
  | bang : Signs .bang .not

/-- The two spellings of the power operator. -/
inductive Raises : Symbol → Prop where
  | caret : Raises .caret
  | power : Raises .power

mutual

/-- **The tokens derive the tree at a level.** -/
inductive Derives : Level → List Token → Formula → Prop where
  | disjunction {u : List Token} {e : Formula} (h : Derives (.tier .disjunction) u e) :
      Derives .ternary u e
  | choice {u v w : List Token} {c a b : Formula} (hc : Derives (.tier .disjunction) u c)
      (ha : Derives .ternary v a) (hb : Derives .ternary w b) :
      Derives .ternary (u ++ .symbol .question :: (v ++ .symbol .colon :: w)) (.ternary c a b)
  | operand {t : Tier} {u : List Token} {e : Formula} (h : Derives (operandLevel t) u e) :
      Derives (.tier t) u e
  | chain {t : Tier} {s : Symbol} {op : BinaryOp} {u v : List Token} {a b : Formula}
      (ha : Derives (.tier t) u a) (hs : Chains t s op) (hb : Derives (operandLevel t) v b) :
      Derives (.tier t) (u ++ .symbol s :: v) (.binary op a b)
  | sign {s : Symbol} {op : UnaryOp} {u : List Token} {a : Formula} (hs : Signs s op)
      (h : Derives .unary u a) : Derives .unary (.symbol s :: u) (.unary op a)
  | unsigned {u : List Token} {e : Formula} (h : Derives .power u e) : Derives .unary u e
  | base {u : List Token} {e : Formula} (h : Derives .primary u e) : Derives .power u e
  | power {s : Symbol} {u v : List Token} {a b : Formula} (ha : Derives .primary u a)
      (hs : Raises s) (hb : Derives .unary v b) :
      Derives .power (u ++ .symbol s :: v) (.binary .pow a b)
  | number (x : Float) : Derives .primary [.number x] (.number x)
  | text (s : String) : Derives .primary [.text s] (.text s)
  | column (name : String) : Derives .primary [.column name] (.column name)
  | parens {u : List Token} {e : Formula} (h : Derives .ternary u e) :
      Derives .primary (.symbol .opening :: (u ++ [.symbol .closing])) e
  | call {name : String} {f : Func} {u : List Token} {args : List Formula}
      (hf : Func.ofName? name = some f) (h : DerivesAll u args) (hn : f.admits args.length = true) :
      Derives .primary (.word name :: .symbol .opening :: (u ++ [.symbol .closing]))
        (.call f args)

/-- The tokens derive the trees of one or more conditionals with commas between them. -/
inductive DerivesAll : List Token → List Formula → Prop where
  | one {u : List Token} {e : Formula} (h : Derives .ternary u e) : DerivesAll u [e]
  | more {u v : List Token} {e : Formula} {es : List Formula} (h : Derives .ternary u e)
      (hs : DerivesAll v es) : DerivesAll (u ++ .symbol .comma :: v) (e :: es)

end

/-! ## The order of the levels -/

/-- How loose a level is. -/
def Level.depth : Level → Nat
  | .ternary => 8
  | .tier .disjunction => 7
  | .tier .conjunction => 6
  | .tier .comparison => 5
  | .tier .sum => 4
  | .tier .product => 3
  | .unary => 2
  | .power => 1
  | .primary => 0

/-- The tightest level in which a symbol can stand after a phrase of the next tighter level;
above all levels for a symbol that only stands after a whole formula, or in front of one. -/
def reach : Symbol → Nat
  | .question => 8
  | .or | .orOr => 7
  | .and | .andAnd => 6
  | .lt | .le | .gt | .ge | .eq | .ne => 5
  | .plus | .minus => 4
  | .star | .slash => 3
  | .caret | .power => 1
  | .colon | .comma | .opening | .closing | .bang => 9

theorem depth_operandLevel (t : Tier) :
    (operandLevel t).depth + 1 = (Level.tier t).depth := by
  cases t <;> rfl

theorem Chains.reach_eq {t : Tier} {s : Symbol} {op : BinaryOp} (h : Chains t s op) :
    reach s = (Level.tier t).depth := by
  cases h <;> rfl

theorem Raises.reach_eq {s : Symbol} (h : Raises s) : reach s = 1 := by
  cases h <;> rfl

/-! ## What a formula begins with -/

/-- The symbols that a phrase of a level can begin with. -/
def Opens (l : Level) (s : Symbol) : Prop :=
  s = .opening ∨ 2 ≤ l.depth ∧ ∃ op, Signs s op

theorem Opens.mono {l l' : Level} {s : Symbol} (hl : l.depth ≤ l'.depth) (h : Opens l s) :
    Opens l' s :=
  h.imp_right fun ⟨h₂, hs⟩ => ⟨Nat.le_trans h₂ hl, hs⟩

/-- A phrase is not empty, and a symbol in its front is one of those that its level has there. -/
theorem Derives.front {l : Level} {u : List Token} {e : Formula} (h : Derives l u e) :
    ∃ k v, u = k :: v ∧ ∀ s, k = .symbol s → Opens l s := by
  match h with
  | .disjunction h =>
    obtain ⟨k, v, rfl, hk⟩ := h.front
    exact ⟨k, v, rfl, fun s hs => (hk s hs).mono (by decide)⟩
  | .choice hc _ _ =>
    obtain ⟨k, v, rfl, hk⟩ := hc.front
    exact ⟨k, _, rfl, fun s hs => (hk s hs).mono (by decide)⟩
  | .operand h =>
    obtain ⟨k, v, rfl, hk⟩ := h.front
    exact ⟨k, v, rfl, fun s hs => (hk s hs).mono (by rw [← depth_operandLevel]; omega)⟩
  | .chain ha _ _ =>
    obtain ⟨k, v, rfl, hk⟩ := ha.front
    exact ⟨k, _, rfl, hk⟩
  | .sign hs _ =>
    refine ⟨_, _, rfl, ?_⟩
    rintro s ⟨⟩
    exact .inr ⟨by decide, _, hs⟩
  | .unsigned h =>
    obtain ⟨k, v, rfl, hk⟩ := h.front
    exact ⟨k, v, rfl, fun s hs => (hk s hs).mono (by decide)⟩
  | .base h =>
    obtain ⟨k, v, rfl, hk⟩ := h.front
    exact ⟨k, v, rfl, fun s hs => (hk s hs).mono (by decide)⟩
  | .power ha _ _ =>
    obtain ⟨k, v, rfl, hk⟩ := ha.front
    exact ⟨k, _, rfl, fun s hs => (hk s hs).mono (by decide)⟩
  | .number _ | .text _ | .column _ => exact ⟨_, _, rfl, nofun⟩
  | .parens _ =>
    refine ⟨_, _, rfl, ?_⟩
    rintro s ⟨⟩
    exact .inl rfl
  | .call _ _ _ => exact ⟨_, _, rfl, nofun⟩

theorem DerivesAll.front {u : List Token} {es : List Formula} (h : DerivesAll u es) :
    ∃ k v, u = k :: v ∧ ∀ s, k = .symbol s → Opens .ternary s := by
  cases h with
  | one h => exact h.front
  | more h hs =>
    obtain ⟨k, v, rfl, hk⟩ := h.front
    exact ⟨k, _, rfl, hk⟩

/-! ## The tables of the reader -/

theorem operator?_eq_some {t : Tier} {s : Symbol} {op : BinaryOp} :
    t.operator? s = some op ↔ Chains t s op := by
  constructor
  · intro h
    unfold Tier.operator? at h
    split at h <;> cases h <;> constructor
  · rintro ⟨⟩ <;> rfl

theorem ofSymbol?_eq_some {s : Symbol} {op : UnaryOp} :
    UnaryOp.ofSymbol? s = some op ↔ Signs s op := by
  constructor
  · intro h
    unfold UnaryOp.ofSymbol? at h
    split at h <;> cases h <;> constructor
  · rintro ⟨⟩ <;> rfl

theorem isPower?_eq_some {s : Symbol} {u : Unit} : isPower? s = some u ↔ Raises s := by
  constructor
  · intro h
    unfold isPower? at h
    split at h <;> cases h <;> constructor
  · rintro ⟨⟩ <;> rfl

end Formula

end Tabular
