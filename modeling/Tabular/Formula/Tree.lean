import Tabular.Text.Case

/-!
# Row formulas

The tree of a formula over the columns of a table, and the causes for which a formula is
refused.

* `Func.ofName?` finds a function by its name in any ASCII letter case.
* `Func.admits` says how many arguments a function takes.
* `FormulaError.message` is the wording of every cause.
-/

namespace Tabular

/-- Operators in front of one operand. -/
inductive UnaryOp where
  | neg | plus | not
  deriving DecidableEq, Repr

/-- Operators between two operands. -/
inductive BinaryOp where
  | add | sub | mul | div | pow
  | lt | le | gt | ge | eq | ne
  | and | or
  deriving DecidableEq, Repr

/-- The functions a formula may call. -/
inductive Func where
  | abs | sqrt | exp | ln | log10 | floor | ceil | round | int
  | min | max | pow | sin | cos | tan | cond | missing
  deriving DecidableEq, Repr

/-- The tree of a formula. -/
inductive Formula where
  | number (x : Float)
  | text (s : String)
  | column (name : String)
  | unary (op : UnaryOp) (a : Formula)
  | binary (op : BinaryOp) (a b : Formula)
  | ternary (c a b : Formula)
  | call (f : Func) (args : List Formula)

/-- How an operator in front is written. -/
def UnaryOp.text : UnaryOp → String
  | .neg => "-"
  | .plus => "+"
  | .not => "!"

/-- How an operator between operands is written; of two spellings the shorter. -/
def BinaryOp.text : BinaryOp → String
  | .add => "+" | .sub => "-" | .mul => "*" | .div => "/" | .pow => "^"
  | .lt => "<" | .le => "<=" | .gt => ">" | .ge => ">=" | .eq => "==" | .ne => "!="
  | .and => "&" | .or => "|"

/-- The name of a function. -/
def Func.name : Func → String
  | .abs => "abs" | .sqrt => "sqrt" | .exp => "exp" | .ln => "ln" | .log10 => "log10"
  | .floor => "floor" | .ceil => "ceil" | .round => "round" | .int => "int"
  | .min => "min" | .max => "max" | .pow => "pow"
  | .sin => "sin" | .cos => "cos" | .tan => "tan"
  | .cond => "cond" | .missing => "missing"

/-- Finds a function by name, in any letter case; the natural logarithm has two names. -/
def Func.ofName? (name : String) : Option Func :=
  match lowered name with
  | "abs" => some .abs | "sqrt" => some .sqrt | "exp" => some .exp
  | "ln" => some .ln | "log" => some .ln | "log10" => some .log10
  | "floor" => some .floor | "ceil" => some .ceil | "round" => some .round | "int" => some .int
  | "min" => some .min | "max" => some .max | "pow" => some .pow
  | "sin" => some .sin | "cos" => some .cos | "tan" => some .tan
  | "cond" => some .cond | "missing" => some .missing
  | _ => none

/-- The counts of arguments a function takes. -/
def Func.admits : Func → Nat → Bool
  | .round, n => n == 1 || n == 2
  | .min, n | .max, n => 1 ≤ n
  | .pow, n => n == 2
  | .cond, n => n == 3
  | _, n => n == 1

theorem Func.admits_zero (f : Func) : f.admits 0 = false := by cases f <;> rfl

/-- The counts of arguments a function takes, in words. -/
def Func.arity : Func → String
  | .round => "1 or 2"
  | .min | .max => "at least 1"
  | .pow => "2"
  | .cond => "3"
  | _ => "1"

/-- What computes a number out of numbers. -/
inductive Operation where
  | unary (op : UnaryOp)
  | binary (op : BinaryOp)
  | function (f : Func)
  deriving DecidableEq, Repr

/-- The name of an operation. -/
def Operation.text : Operation → String
  | .unary op => op.text
  | .binary op => op.text
  | .function f => f.name

/-- The causes for which a formula is refused, with byte positions in its source. -/
inductive FormulaError where
  | empty
  | unexpectedChar (c : Char) (pos : Nat)
  | unterminatedText (pos : Nat)
  | invalidNumber (text : String)
  | unexpectedToken (found : String) (pos : Nat)
  | unexpectedEnd
  | unknownVariable (name : String)
  | unknownFunction (name : String)
  | arity (f : Func) (given : Nat)
  | typeMismatch (op : Operation)
  deriving DecidableEq, Repr

/-- The wording of a cause. -/
def FormulaError.message : FormulaError → String
  | .empty => "empty expression"
  | .unexpectedChar c pos => s!"unexpected character '{c}' at position {pos}"
  | .unterminatedText pos => s!"unterminated string starting at position {pos}"
  | .invalidNumber text => s!"invalid number '{text}'"
  | .unexpectedToken found pos => s!"unexpected '{found}' at position {pos}"
  | .unexpectedEnd => "unexpected end of expression"
  | .unknownVariable name => s!"variable {name} not found"
  | .unknownFunction name => s!"unknown function {name}()"
  | .arity f given => s!"{f.name}() takes {f.arity} argument(s), got {given}"
  | .typeMismatch op => s!"type mismatch: '{op.text}' cannot be applied to a string"

end Tabular
