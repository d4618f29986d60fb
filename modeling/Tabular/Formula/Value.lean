import Tabular.Cell
import Tabular.Formula.Tree

/-!
# The value of a formula in a row

Inside a formula a missing cell is NaN, so arithmetic on it stays NaN and every comparison
with it is false. At the end a number that is not finite becomes an empty cell.

* `Scalar.ofCell` and `Scalar.toCell` are the two ends.
* `Formula.eval` evaluates a tree; only the operands that a choice takes are evaluated.
* `BinaryOp.apply` and `Func.apply` are the tables of operations.
-/

namespace Tabular

/-- A value inside a formula. -/
inductive Scalar where
  | number (x : Float)
  | text (s : String)
  deriving DecidableEq

/-- Not a number: the value of a missing cell. -/
def notANumber : Float := 0 / 0

namespace Scalar

/-- A missing cell reads as NaN. -/
def ofCell : Cell → Scalar
  | .number x => .number x
  | .text s => if s.isEmpty then .number notANumber else .text s
  | .empty => .number notANumber

/-- A number is stored only when it is finite. -/
def toCell : Scalar → Cell
  | .number x => if x.isFinite then .number x else .empty
  | .text s => .text s

/-- Zero, NaN and the empty text are false. -/
def truthy : Scalar → Bool
  | .number x => x != 0 && !x.isNaN
  | .text s => !s.isEmpty

/-- NaN and the empty text are missing. -/
def isMissing : Scalar → Bool
  | .number x => x.isNaN
  | .text s => s.isEmpty

/-- One for true, zero for false. -/
def flag (b : Bool) : Scalar := .number (if b then 1 else 0)

/-- The number that an operation needs. -/
def numberFor (op : Operation) : Scalar → Except FormulaError Float
  | .number x => .ok x
  | .text _ => .error (.typeMismatch op)

end Scalar

/-- Drops the fraction. -/
def truncate (x : Float) : Float := if x < 0 then x.ceil else x.floor

/-- Powers; one to any power and anything to the power zero are one, even for NaN. -/
def power (a b : Float) : Float :=
  if b == 0 || a == 1 then 1
  else if a.isNaN || b.isNaN then notANumber
  else a.pow b

/-- Rounds at a decimal place, a half away from zero. -/
def roundPlaces (x places : Float) : Float :=
  let factor := power 10 (truncate places)
  (x * factor).round / factor

/-- The lesser number; NaN gives way, and of two equal ones the first stays. -/
def lesser (a b : Float) : Float := if a.isNaN || b < a then b else a

/-- The greater number; NaN gives way, and of two equal ones the first stays. -/
def greater (a b : Float) : Float := if a.isNaN || a < b then b else a

/-- Arithmetic and comparison of numbers. -/
def BinaryOp.onNumbers (op : BinaryOp) (a b : Float) : Scalar :=
  match op with
  | .add => .number (a + b)
  | .sub => .number (a - b)
  | .mul => .number (a * b)
  | .div => .number (a / b)
  | .pow => .number (power a b)
  | .lt => .flag (a < b)
  | .le => .flag (a ≤ b)
  | .gt => .flag (b < a)
  | .ge => .flag (b ≤ a)
  | .eq => .flag (a == b)
  | .ne => .flag (a != b)
  | .and => .flag (a != 0 && b != 0)
  | .or => .flag (a != 0 || b != 0)

/-- Joining and comparison of texts, by code point; other operators do not apply. -/
def BinaryOp.onTexts (op : BinaryOp) (a b : String) : Except FormulaError Scalar :=
  match op with
  | .add => .ok (.text (a ++ b))
  | .eq => .ok (.flag (a == b))
  | .ne => .ok (.flag (a != b))
  | .lt => .ok (.flag (a < b))
  | .le => .ok (.flag (!(b < a)))
  | .gt => .ok (.flag (b < a))
  | .ge => .ok (.flag (!(a < b)))
  | op => .error (.typeMismatch (.binary op))

/-- An operator on two values; a text never equals a number. -/
def BinaryOp.apply (op : BinaryOp) : Scalar → Scalar → Except FormulaError Scalar
  | .number a, .number b => .ok (op.onNumbers a b)
  | .text a, .text b => op.onTexts a b
  | _, _ =>
    match op with
    | .eq => .ok (.flag false)
    | .ne => .ok (.flag true)
    | op => .error (.typeMismatch (.binary op))

/-- A function of numbers; a missing argument is NaN. -/
def Func.apply (f : Func) (args : List Float) : Float :=
  let x := args.headD notANumber
  match f with
  | .abs => x.abs
  | .sqrt => x.sqrt
  | .exp => x.exp
  | .ln => x.log
  | .log10 => x.log10
  | .floor => x.floor
  | .ceil => x.ceil
  | .int => truncate x
  | .round => roundPlaces x (args[1]?.getD 0)
  | .min => args.foldl lesser notANumber
  | .max => args.foldl greater notANumber
  | .pow => power x (args[1]?.getD notANumber)
  | .sin => x.sin
  | .cos => x.cos
  | .tan => x.tan
  | .cond | .missing => notANumber

namespace Formula

mutual

/-- The value of a formula in a row. -/
def eval (r : Row) : Formula → Except FormulaError Scalar
  | number x => .ok (.number x)
  | text s => .ok (.text s)
  | column name => .ok (.ofCell (r.cell name))
  | unary op a => do
    let v ← eval r a
    match op with
    | .not => return .flag !v.truthy
    | .neg => return .number (-(← v.numberFor (.unary .neg)))
    | .plus => return .number (← v.numberFor (.unary .plus))
  | binary op a b => do
    let v ← eval r a
    match op with
    | .and => if v.truthy then return .flag (← eval r b).truthy else return .flag false
    | .or => if v.truthy then return .flag true else return .flag (← eval r b).truthy
    | op => op.apply v (← eval r b)
  | ternary c a b => do
    if (← eval r c).truthy then eval r a else eval r b
  | call .cond args => evalChoice r args
  | call .missing args => evalMissing r args
  | call f args => do return .number (f.apply (← evalNumbers f r args))

/-- The chosen one of two values. -/
def evalChoice (r : Row) : List Formula → Except FormulaError Scalar
  | [c, a, b] => do if (← eval r c).truthy then eval r a else eval r b
  | _ => .ok (.number notANumber)

/-- Whether the first value is missing. -/
def evalMissing (r : Row) : List Formula → Except FormulaError Scalar
  | a :: _ => do return .flag (← eval r a).isMissing
  | [] => .ok (.flag true)

/-- The arguments of a function of numbers, from left to right. -/
def evalNumbers (f : Func) (r : Row) : List Formula → Except FormulaError (List Float)
  | [] => .ok []
  | a :: as => do
    let x ← (← eval r a).numberFor (.function f)
    return x :: (← evalNumbers f r as)

end

end Formula

end Tabular
