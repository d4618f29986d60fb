import Tabular.Text.Case

/-!
# Reading numbers

* `Numeral.read?` reads an optionally signed decimal, with an optional fraction and exponent.
* `float?` gives the nearest double, and knows the names of infinity and NaN.
* `natural?` reads a count that fits a 64-bit word.
-/

namespace Tabular

/-- The ASCII digits, the only ones numbers are written with. -/
def isDigit (c : Char) : Bool := '0' ≤ c && c ≤ '9'

/-- The value of a digit. -/
def digitValue (c : Char) : Nat := c.toNat - '0'.toNat

/-- The value of a run of digits. -/
def digitsValue (ds : List Char) : Nat := ds.foldl (fun n c => 10 * n + digitValue c) 0

/-- Splits off a sign; `true` is a minus. -/
def signed : List Char → Bool × List Char
  | '-' :: rest => (true, rest)
  | '+' :: rest => (false, rest)
  | rest => (false, rest)

/-- A decimal number `± digits · 10 ^ exponent`. -/
structure Numeral where
  neg : Bool
  digits : Nat
  exponent : Int
  deriving DecidableEq, Repr

/-- The exponent after the digits: absent, or `e` or `E`, a sign and at least one digit. -/
def exponent? : List Char → Option Int
  | [] => some 0
  | c :: rest =>
    if c = 'e' ∨ c = 'E' then
      let (neg, ds) := signed rest
      if ds = [] ∨ !ds.all isDigit then none
      else some (if neg then -digitsValue ds else digitsValue ds)
    else none

/-- Digits, then possibly a point and digits; at least one digit in all. -/
def unsigned? (neg : Bool) (cs : List Char) : Option Numeral :=
  let whole := cs.takeWhile isDigit
  let rest := cs.dropWhile isDigit
  let (frac, rest) :=
    match rest with
    | '.' :: r => (r.takeWhile isDigit, r.dropWhile isDigit)
    | r => ([], r)
  if whole = [] ∧ frac = [] then none
  else (exponent? rest).map fun e => ⟨neg, digitsValue (whole ++ frac), e - frac.length⟩

/-- Reads a whole decimal number. -/
def Numeral.read? (cs : List Char) : Option Numeral :=
  let (neg, rest) := signed cs
  unsigned? neg rest

/-- The nearest double of `digits · 10 ^ exponent`. Outside the range of doubles the answer
is known without forming the power of ten. -/
def nearest (digits : Nat) (exponent : Int) : Float :=
  let top : Int := (Nat.toDigits 10 digits).length + exponent
  if digits = 0 ∨ top < -330 then 0
  else if top > 310 then 1 / 0
  else .ofScientific digits (exponent < 0) exponent.natAbs

/-- The double of a numeral. -/
def Numeral.toFloat (n : Numeral) : Float :=
  let x := nearest n.digits n.exponent
  if n.neg then -x else x

/-- The special values are named in any letter case, with an optional sign. -/
def special? (cs : List Char) : Option Float :=
  let (neg, rest) := signed cs
  match lowered (.ofList rest) with
  | "inf" | "infinity" => some (if neg then -(1 / 0) else 1 / 0)
  | "nan" => some (0 / 0)
  | _ => none

/-- **Reads a double**: a decimal number or the name of a special value, nothing around it. -/
def float? (s : String) : Option Float :=
  match special? s.toList with
  | some x => some x
  | none => (Numeral.read? s.toList).map Numeral.toFloat

/-- Counts fit a word of 64 bits. -/
def wordLimit : Nat := Nat.pow 2 64

/-- **Reads a count**: digits with an optional plus, below the word limit. -/
def natural? (s : String) : Option Nat :=
  let ds := match s.toList with
    | '+' :: rest => rest
    | cs => cs
  if ds = [] ∨ !ds.all isDigit then none
  else
    let n := digitsValue ds
    if n < wordLimit then some n else none

end Tabular
