import Tabular.Decimal.Binary

/-!
# Decimals with a fixed number of places

The exact binary value is rounded once, to nearest, a half to the even neighbour.

* `roundDiv` rounds a quotient; `fixed` writes a double with the given places.
* `roundHundredths` is the nearest double to a value rounded on the grid of hundredths.
-/

namespace Tabular

/-- The quotient `num / den` to the nearest natural number, a half to the even one. -/
def roundDiv (num den : Nat) : Nat :=
  let n := num / den
  let rest := 2 * (num % den)
  if rest < den then n else if den < rest then n + 1 else n + n % 2

/-- The digits of `n` with a point before the last `places`. -/
def pointed (places n : Nat) : String :=
  let digits := Nat.toDigits 10 n
  let digits := List.replicate (places + 1 - digits.length) '0' ++ digits
  let whole := digits.take (digits.length - places)
  .ofList (if places = 0 then whole else whole ++ '.' :: digits.drop (digits.length - places))

/-- The text of an exact binary value with the given places; the sign of zero is kept. -/
def Binary.fixed (places : Nat) : Binary → String
  | .nan => "NaN"
  | .infinite neg => if neg then "-inf" else "inf"
  | .finite neg m q =>
    let n := roundDiv (m * Nat.pow 10 places * Nat.pow 2 q.toNat) (Nat.pow 2 (-q).toNat)
    (if neg then "-" else "") ++ pointed places n

/-- **The text of a double with a fixed number of places.** -/
def fixed (places : Nat) (x : Float) : String := (Binary.ofFloat x).fixed places

/-- Two decimals, a half away from zero; computed in doubles. -/
def roundHundredths (x : Float) : Float := (x * 100).round / 100

end Tabular
