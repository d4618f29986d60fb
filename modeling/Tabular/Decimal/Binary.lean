/-!
# Doubles as exact binary values

A double is not a number, an infinity, or exactly `±m · 2 ^ q` (`Binary`). Every rule
about the text of numbers is stated on `m` and `q`, in exact integer arithmetic.

* `Binary.ofBits` reads the sign, the exponent and the significand of a word.
* `Binary.floor` is the exact floor of a finite value.
* `totalKey` places all words on one line: the order used for sorting columns.
-/

namespace Tabular

/-- The exact value of a double: `finite neg m q` is `m · 2 ^ q`, negated when `neg`. -/
inductive Binary where
  | nan
  | infinite (neg : Bool)
  | finite (neg : Bool) (m : Nat) (q : Int)
  deriving DecidableEq, Repr

/-- Words from this one on are negative. -/
def signBit : Nat := Nat.pow 2 63

/-- Significands of full precision begin here. -/
def hiddenBit : Nat := Nat.pow 2 52

/-- The significand has 52 stored bits; the exponent has 11, biased so that the least
exponent of a finite value is `-1074`. -/
def Binary.ofBits (w : UInt64) : Binary :=
  let n : Nat := w.toNat
  let neg : Bool := signBit ≤ n
  let e : Nat := n / hiddenBit % 2048
  let f : Nat := n % hiddenBit
  if e = 2047 then
    if f = 0 then .infinite neg else .nan
  else if e = 0 then .finite neg f (-1074)
  else .finite neg (hiddenBit + f) ((e : Int) - 1075)

/-- The exact value of a double. -/
def Binary.ofFloat (x : Float) : Binary := .ofBits x.toBits

/-- The greatest integer not above a finite value. -/
def Binary.floor : Binary → Option Int
  | .finite neg m q =>
    let n : Int := if neg then -m else m
    some (Int.fdiv (n * Nat.pow 2 q.toNat) (Nat.pow 2 (-q).toNat))
  | _ => none

/-- The place of a word in the total order of doubles: negative words run backwards and
end just below zero, so `-0` precedes `0` and not-a-number values are outermost. -/
def totalKey (w : UInt64) : Int :=
  if w.toNat < signBit then w.toNat else (signBit : Int) - 1 - w.toNat

/-- The total order of doubles, `-0` before `0` and NaN last. -/
def totalLe (x y : Float) : Bool := totalKey x.toBits ≤ totalKey y.toBits

end Tabular
