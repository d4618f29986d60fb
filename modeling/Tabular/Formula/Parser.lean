import Tabular.Formula.Token

/-!
# Reading the tree of a formula

The grammar has three kinds of levels: the conditional, five levels of left-associative
operators (`Tier`), and the unary, power and primary levels. Each function reads its level
from the front of the lexemes and returns what is left, which is always shorter.

* `Formula.parse` reads a whole list of lexemes.
* `Tier.operator?` says which operators a tier chains.
* The power operator binds tighter than a sign on its left and chains to the right.
-/

namespace Tabular

/-- The levels of left-associative operators, loosest first. -/
inductive Tier where
  | disjunction | conjunction | comparison | sum | product
  deriving DecidableEq, Repr

/-- The operator that a symbol stands for in a tier. -/
def Tier.operator? : Tier → Symbol → Option BinaryOp
  | .disjunction, .or | .disjunction, .orOr => some .or
  | .conjunction, .and | .conjunction, .andAnd => some .and
  | .comparison, .lt => some .lt
  | .comparison, .le => some .le
  | .comparison, .gt => some .gt
  | .comparison, .ge => some .ge
  | .comparison, .eq => some .eq
  | .comparison, .ne => some .ne
  | .sum, .plus => some .add
  | .sum, .minus => some .sub
  | .product, .star => some .mul
  | .product, .slash => some .div
  | _, _ => none

/-- The tier of the operands; the operands of products are unary formulas. -/
def Tier.next? : Tier → Option Tier
  | .disjunction => some .conjunction
  | .conjunction => some .comparison
  | .comparison => some .sum
  | .sum => some .product
  | .product => none

/-- The depth of a tier, counted from the tightest. -/
def Tier.rank : Tier → Nat
  | .disjunction => 5
  | .conjunction => 4
  | .comparison => 3
  | .sum => 2
  | .product => 1

@[simp] theorem Tier.rank_disjunction : Tier.disjunction.rank = 5 := rfl

theorem Tier.rank_pos (t : Tier) : 1 ≤ t.rank := by cases t <;> decide

theorem Tier.rank_le (t : Tier) : t.rank ≤ 5 := by cases t <;> decide

theorem Tier.rank_next {t u : Tier} (h : t.next? = some u) : u.rank < t.rank := by
  cases t <;> cases h <;> decide

/-- The operator of a symbol in front of an operand. -/
def UnaryOp.ofSymbol? : Symbol → Option UnaryOp
  | .minus => some .neg
  | .plus => some .plus
  | .bang => some .not
  | _ => none

/-- The symbol of a power. -/
def isPower? : Symbol → Option Unit
  | .caret | .power => some ()
  | _ => none

/-- The complaint about the next lexeme. -/
def unexpected : List Lexeme → FormulaError
  | l :: _ => .unexpectedToken l.token.description l.pos
  | [] => .unexpectedEnd

/-- The lexemes left over by a reader that takes at least one. -/
abbrev Shorter (ts : List Lexeme) := { rest : List Lexeme // rest.length < ts.length }

/-- What is left over of what is left over. -/
def Shorter.trans {ts : List Lexeme} (r : Shorter ts) (s : Shorter r.val) : Shorter ts :=
  ⟨s.val, Nat.lt_trans s.property r.property⟩

/-- Takes the symbol in front if it stands for something. -/
def front? (f : Symbol → Option α) : (ts : List Lexeme) → Option (α × Shorter ts)
  | ⟨.symbol s, _⟩ :: rest => (f s).map fun a => (a, ⟨rest, by simp⟩)
  | _ => none

/-- Takes a given symbol if it is in front. -/
def eat? (s : Symbol) : (ts : List Lexeme) → Option (Shorter ts)
  | ⟨.symbol t, _⟩ :: rest => if t = s then some ⟨rest, by simp⟩ else none
  | _ => none

/-- Takes a given symbol, which must be in front. -/
def expect (s : Symbol) (ts : List Lexeme) : Except FormulaError (Shorter ts) :=
  match eat? s ts with
  | some r => .ok r
  | none => .error (unexpected ts)

/-- What a reader of values of a type gives: a value and the lexemes left over. -/
abbrev Reading (α : Type) (ts : List Lexeme) := Except FormulaError (α × Shorter ts)

namespace Formula

mutual

/-- A conditional: a disjunction, or a choice between two conditionals. -/
def readTernary (ts : List Lexeme) : Reading Formula ts := do
  let (c, r) ← readTier .disjunction ts
  match eat? .question r.val with
  | none => return (c, r)
  | some r₁ =>
    have := r.property
    have := r₁.property
    let (a, r₂) ← readTernary r₁.val
    let r₃ ← expect .colon r₂.val
    have := r₂.property
    have := r₃.property
    let (b, r₄) ← readTernary r₃.val
    return (.ternary c a b, r.trans (r₁.trans (r₂.trans (r₃.trans r₄))))
termination_by 16 * ts.length + 14

/-- A chain of operators of one tier. -/
def readTier (t : Tier) (ts : List Lexeme) : Reading Formula ts := do
  let (a, r) ← readOperand t ts
  have := r.property
  let (e, s) ← readMore t a r.val
  return (e, ⟨s.val, Nat.lt_of_le_of_lt s.property r.property⟩)
termination_by 16 * ts.length + 2 * t.rank + 3

/-- The operands of a tier: the next tier, or unary formulas. -/
def readOperand (t : Tier) (ts : List Lexeme) : Reading Formula ts :=
  match h : t.next? with
  | some u =>
    have := Tier.rank_next h
    readTier u ts
  | none =>
    have := Tier.rank_pos t
    readUnary ts
termination_by 16 * ts.length + 2 * t.rank + 2

/-- The rest of a chain, whose operands so far make up `a`. -/
def readMore (t : Tier) (a : Formula) (ts : List Lexeme) :
    Except FormulaError (Formula × { rest : List Lexeme // rest.length ≤ ts.length }) :=
  match front? t.operator? ts with
  | none => .ok (a, ⟨ts, Nat.le_refl _⟩)
  | some (op, r) => do
    have := Tier.rank_le t
    have := r.property
    let (b, r₁) ← readOperand t r.val
    have := r₁.property
    let (e, s) ← readMore t (.binary op a b) r₁.val
    return (e, ⟨s.val, by have := s.property; omega⟩)
termination_by 16 * ts.length + 12

/-- Signs and negations in front of a power. -/
def readUnary (ts : List Lexeme) : Reading Formula ts :=
  match front? UnaryOp.ofSymbol? ts with
  | none => readPower ts
  | some (op, r) => do
    have := r.property
    let (a, r₁) ← readUnary r.val
    return (.unary op a, r.trans r₁)
termination_by 16 * ts.length + 2

/-- A primary formula, possibly raised to a power. -/
def readPower (ts : List Lexeme) : Reading Formula ts := do
  let (a, r) ← readPrimary ts
  match front? isPower? r.val with
  | none => return (a, r)
  | some (_, r₁) =>
    have := r.property
    have := r₁.property
    let (b, r₂) ← readUnary r₁.val
    return (.binary .pow a b, r.trans (r₁.trans r₂))
termination_by 16 * ts.length + 1

/-- A number, a text, a column, a formula in parentheses or a call. -/
def readPrimary (ts : List Lexeme) : Reading Formula ts :=
  match ts with
  | [] => .error .unexpectedEnd
  | ⟨.number x, _⟩ :: rest => .ok (.number x, ⟨rest, by simp⟩)
  | ⟨.text s, _⟩ :: rest => .ok (.text s, ⟨rest, by simp⟩)
  | ⟨.column name, _⟩ :: rest => .ok (.column name, ⟨rest, by simp⟩)
  | ⟨.word name, _⟩ :: rest =>
    match eat? .opening rest with
    | none => .error (.unknownVariable name)
    | some r =>
      match Func.ofName? name with
      | none => .error (.unknownFunction name)
      | some f => do
        have := r.property
        let (args, s) ← readArguments r.val
        if f.admits args.length then
          return (.call f args, ⟨s.val, by have := s.property; simp only [List.length_cons]; omega⟩)
        else .error (.arity f args.length)
  | ⟨.symbol s, pos⟩ :: rest =>
    if s = .opening then do
      let (a, r) ← readTernary rest
      let r₁ ← expect .closing r.val
      return (a, ⟨r₁.val, by
        have := r.property; have := r₁.property; simp only [List.length_cons]; omega⟩)
    else .error (.unexpectedToken (Token.symbol s).description pos)
termination_by 16 * ts.length

/-- The arguments of a call and the parenthesis that closes it. -/
def readArguments (ts : List Lexeme) : Reading (List Formula) ts :=
  match eat? .closing ts with
  | some r => .ok ([], r)
  | none => readSeparated ts
termination_by 16 * ts.length + 16

/-- One or more arguments with commas between them, up to the closing parenthesis. -/
def readSeparated (ts : List Lexeme) : Reading (List Formula) ts := do
  let (a, r) ← readTernary ts
  match eat? .comma r.val with
  | some r₁ =>
    have := r.property
    have := r₁.property
    let (as, s) ← readSeparated r₁.val
    return (a :: as, r.trans (r₁.trans s))
  | none =>
    let s ← expect .closing r.val
    return ([a], r.trans s)
termination_by 16 * ts.length + 15

end

/-- **The formula that a whole list of lexemes derives.** -/
def parse (ts : List Lexeme) : Except FormulaError Formula :=
  match ts with
  | [] => .error .empty
  | l :: rest => do
    let (e, r) ← readTernary (l :: rest)
    if r.val.isEmpty then return e else .error (unexpected r.val)

end Formula

end Tabular
