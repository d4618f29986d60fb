/-!
# Blank characters

The characters of the property White_Space, and what trimming and splitting at them mean.

* `trimLeft`, `trimRight`, `trim` drop blank characters at the ends of a text.
* `words` are the maximal runs of non-blank characters.
-/

namespace Tabular

/-- The property White_Space. -/
def isBlank (c : Char) : Bool :=
  let n := c.toNat
  (9 ≤ n && n ≤ 13) || n == 0x20 || n == 0x85 || n == 0xa0 || n == 0x1680 ||
    (0x2000 ≤ n && n ≤ 0x200a) || n == 0x2028 || n == 0x2029 || n == 0x202f ||
    n == 0x205f || n == 0x3000

/-- Drops the blank characters in front. -/
def trimLeft (cs : List Char) : List Char := cs.dropWhile isBlank

/-- Drops the blank characters at the end. -/
def trimRight (cs : List Char) : List Char := (cs.reverse.dropWhile isBlank).reverse

/-- Drops the blank characters at both ends. -/
def trim (cs : List Char) : List Char := trimRight (trimLeft cs)

/-- The text without the blank characters at its ends. -/
def trimmed (s : String) : String := .ofList (trim s.toList)

theorem trimLeft_length_le (cs : List Char) : (trimLeft cs).length ≤ cs.length :=
  (List.dropWhile_sublist _).length_le

/-- What is left after trimming starts with a character that is not blank. -/
theorem not_isBlank_of_trimLeft {cs rest : List Char} {c : Char} (h : trimLeft cs = c :: rest) :
    isBlank c = false := by
  induction cs with
  | nil => simp [trimLeft] at h
  | cons a cs ih =>
    unfold trimLeft at h ih
    rw [List.dropWhile_cons] at h
    split at h
    · exact ih h
    · simp_all

/-- The maximal runs of characters that are not blank. -/
def words (cs : List Char) : List (List Char) :=
  match _h : trimLeft cs with
  | [] => []
  | c :: rest => (c :: rest.takeWhile (!isBlank ·)) :: words (rest.dropWhile (!isBlank ·))
termination_by cs.length
decreasing_by
  have hle := trimLeft_length_le cs
  have hr := (List.dropWhile_sublist (!isBlank ·) (l := rest)).length_le
  rw [_h, List.length_cons] at hle
  omega

/-- The words of a text. -/
def wordsOf (s : String) : List String := (words s.toList).map .ofList

end Tabular
