import Tabular.Text.Blank

/-!
# Column headers

The names of columns are made distinct: a blank header is named by its place, and a name that
is taken gets the least number that makes it free.

* `freeName` is that choice.
* `cleanHeaders` names all columns from left to right.
-/

namespace Tabular

/-- The `k`-th choice for a name. -/
def candidate (base : String) (k : Nat) : String :=
  if k = 0 then base else base ++ "_" ++ toString k

/-- **The first free choice for a name**, from the `k`-th on. A choice that is taken is struck
from the taken names before the next one is tried, so the search ends. The counter has no bound:
one of 32 bits would end after `2 ^ 31 - 1` choices that are all taken. -/
def freeFrom (taken : List String) (base : String) (k : Nat) : String :=
  if h : candidate base k ∈ taken then freeFrom (taken.erase (candidate base k)) base (k + 1)
  else candidate base k
termination_by taken.length
decreasing_by
  rw [List.length_erase_of_mem h]
  exact Nat.sub_lt (List.length_pos_of_mem h) Nat.one_pos

/-- The first of all choices for a name that is free. -/
def freeName (taken : List String) (base : String) : String := freeFrom taken base 0

/-- The name that a header asks for; `place` counts from one. -/
def headerBase (place : Nat) (header : String) : String :=
  let name := trimmed header
  if name.isEmpty then s!"col_{place}" else name

/-- **The names of columns with given headers.** -/
def cleanHeaders (headers : List String) : List String :=
  headers.foldl (fun names h => names ++ [freeName names (headerBase (names.length + 1) h)]) []

end Tabular
