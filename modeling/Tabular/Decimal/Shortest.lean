import Tabular.Decimal.Binary

/-!
# The shortest decimal of a double

A double is written with the fewest digits that still read back as the same double, and
among those with the nearest. Both questions are settled on the interval of reals that
round to it, in exact natural-number arithmetic.

* `Neighbourhood.of` is that interval, with a common denominator.
* `Neighbourhood.onGrid?` looks for a multiple of a power of ten inside it.
* `shortest` takes the coarsest grid that has one.
* `Float.decimal` is the text: positional, never an exponent.
-/

namespace Tabular

/-- The reals that round to a positive double: between `low / scale` and `high / scale`,
around `mid / scale`, ends included exactly when `closed`. -/
structure Neighbourhood where
  low : Nat
  mid : Nat
  high : Nat
  scale : Nat
  closed : Bool

/-- The interval around `m · 2 ^ q`. The gap below the least significand of a binade is half
of the gap above it; the ends belong to the interval when `m` is even. -/
def Neighbourhood.of (m : Nat) (q : Int) : Neighbourhood :=
  let up := Nat.pow 2 q.toNat
  let narrow := m == hiddenBit && q > -1074
  { low := (4 * m - if narrow then 1 else 2) * up
    mid := 4 * m * up
    high := (4 * m + 2) * up
    scale := 4 * Nat.pow 2 (-q).toNat
    closed := m % 2 == 0 }

/-- The count of decimal digits of a natural number; zero has one. -/
def digitCount (n : Nat) : Nat := (Nat.toDigits 10 n).length

/-- The exponent `e` with `10 ^ e ≤ num / den < 10 ^ (e + 1)`. -/
def magnitude (num den : Nat) : Int :=
  if den ≤ num then digitCount (num / den) - 1
  else -(digitCount ((den - 1) / num) : Int)

/-- A decimal `digits · 10 ^ exponent`. -/
structure Scaled where
  digits : Nat
  exponent : Int
  deriving DecidableEq, Repr

/-- Of the two multiples of `10 ^ k` beside the middle, the nearest inside the interval; of
two equally near ones the upper. -/
def Neighbourhood.onGrid? (v : Neighbourhood) (k : Int) : Option Nat :=
  let unit := v.scale * Nat.pow 10 k.toNat
  let lift := Nat.pow 10 (-k).toNat
  let low := v.low * lift
  let mid := v.mid * lift
  let high := v.high * lift
  let below := mid / unit
  let above := below + 1
  let inside (n : Nat) : Bool :=
    if v.closed then low ≤ n && n ≤ high else low < n && n < high
  match inside (below * unit), inside (above * unit) with
  | true, true => some (if 2 * (mid - below * unit) < unit then below else above)
  | true, false => some below
  | false, true => some above
  | false, false => none

/-- Tries the grids from `k` downwards, at most `steps` of them. -/
def Neighbourhood.search (v : Neighbourhood) : Nat → Int → Scaled
  | 0, k => ⟨v.mid * Nat.pow 10 (-k).toNat / (v.scale * Nat.pow 10 k.toNat), k⟩
  | steps + 1, k =>
    match v.onGrid? k with
    | some n => if n % 10 = 0 then ⟨n / 10, k + 1⟩ else ⟨n, k⟩
    | none => v.search steps (k - 1)

/-- **The shortest decimal that reads back as `m · 2 ^ q`.** Seventeen digits always do. -/
def shortest (m : Nat) (q : Int) : Scaled :=
  let v := Neighbourhood.of m q
  v.search 17 (magnitude v.mid v.scale)

/-- Positional notation: a point only where a fraction follows, a zero before a leading one. -/
def Scaled.text (d : Scaled) : String :=
  let digits := Nat.toDigits 10 d.digits
  if d.exponent ≥ 0 then
    .ofList (digits ++ List.replicate d.exponent.toNat '0')
  else
    let places := (-d.exponent).toNat
    if places < digits.length then
      .ofList (digits.take (digits.length - places) ++ '.' :: digits.drop (digits.length - places))
    else
      .ofList ('0' :: '.' :: (List.replicate (places - digits.length) '0' ++ digits))

/-- The text of an exact binary value. -/
def Binary.decimal : Binary → String
  | .nan => "NaN"
  | .infinite neg => if neg then "-inf" else "inf"
  | .finite neg m q =>
    (if neg then "-" else "") ++ if m = 0 then "0" else (shortest m q).text

/-- **The text of a double**: shortest digits, positional, sign of zero kept. -/
def decimal (x : Float) : String := (Binary.ofFloat x).decimal

end Tabular
