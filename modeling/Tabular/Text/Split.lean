/-!
# Splitting texts

The separators are left out.

* `splitFirst?` splits at the first separator, `splitLast?` at the last one.
* `splitAll` splits at every separator, so a text without one is a single part.
-/

namespace Tabular

/-- Splits at the first character that passes a test. -/
def splitFirst? (p : Char → Bool) (cs : List Char) : Option (List Char × List Char) :=
  match cs.dropWhile (!p ·) with
  | [] => none
  | _ :: rest => some (cs.takeWhile (!p ·), rest)

/-- Splits at the last character that passes a test. -/
def splitLast? (p : Char → Bool) (cs : List Char) : Option (List Char × List Char) :=
  (splitFirst? p cs.reverse).map fun parts => (parts.2.reverse, parts.1.reverse)

/-- The parts between the characters that pass a test. -/
def splitAll (p : Char → Bool) (cs : List Char) : List (List Char) :=
  match _h : cs.dropWhile (!p ·) with
  | [] => [cs]
  | _ :: rest => cs.takeWhile (!p ·) :: splitAll p rest
termination_by cs.length
decreasing_by
  have hle := (List.dropWhile_sublist (!p ·) (l := cs)).length_le
  rw [_h, List.length_cons] at hle
  omega

end Tabular
