/-!
# Padding

Texts set to a width, counted in characters. A text that is longer is left as it is.

* `padLeft`, `padRight` and `padZeros` fill up a text or a number.
* `rule` is a line of dashes.
-/

namespace Tabular

/-- Blanks in front of a text, up to a width. -/
def padLeft (width : Nat) (s : String) : String :=
  .ofList (List.replicate (width - s.toList.length) ' ' ++ s.toList)

/-- Blanks after a text, up to a width. -/
def padRight (width : Nat) (s : String) : String :=
  .ofList (s.toList ++ List.replicate (width - s.toList.length) ' ')

/-- Zeros in front of a number, up to a width. -/
def padZeros (width n : Nat) : String :=
  let digits := Nat.toDigits 10 n
  .ofList (List.replicate (width - digits.length) '0' ++ digits)

/-- A line of dashes. -/
def rule (width : Nat) : String := .ofList (List.replicate width '-')

/-- A padded text is as wide as it was asked to be, or as wide as it was. -/
theorem length_padLeft (width : Nat) (s : String) :
    (padLeft width s).toList.length = max width s.toList.length := by
  simp only [padLeft, String.toList_ofList, List.length_append, List.length_replicate]
  omega

end Tabular
