/-!
# Bytes as text

* `lossyText` reads bytes as UTF-8 and puts a replacement character for every part that is
  not, so it never fails.
-/

namespace Tabular

/-- The least and the greatest second byte after a lead byte, and the length of the sequence
that it leads. -/
def sequence? (b : UInt8) : Option (UInt8 × UInt8 × Nat) :=
  if 0xc2 ≤ b && b ≤ 0xdf then some (0x80, 0xbf, 2)
  else if b == 0xe0 then some (0xa0, 0xbf, 3)
  else if b == 0xed then some (0x80, 0x9f, 3)
  else if 0xe1 ≤ b && b ≤ 0xef then some (0x80, 0xbf, 3)
  else if b == 0xf0 then some (0x90, 0xbf, 4)
  else if 0xf1 ≤ b && b ≤ 0xf3 then some (0x80, 0xbf, 4)
  else if b == 0xf4 then some (0x80, 0x8f, 4)
  else none

/-- How many bytes in front, at most `n`, continue a sequence. -/
def continuing (n : Nat) (bs : List UInt8) : Nat :=
  ((bs.take n).takeWhile fun b => 0x80 ≤ b && b ≤ 0xbf).length

/-- The length less one of the longest start of a sequence in front of `b :: rest`, and
whether it is the whole of one. -/
def front (b : UInt8) (rest : List UInt8) : Nat × Bool :=
  if b < 0x80 then (0, true)
  else
    match sequence? b, rest with
    | some (low, high, n), c :: more =>
      if low ≤ c && c ≤ high then
        let k := continuing (n - 2) more
        (1 + k, k == n - 2)
      else (0, false)
    | _, _ => (0, false)

/-- The characters of bytes, a replacement character for each part that is none. -/
def lossyChars : (bytes : List UInt8) → List Char
  | [] => []
  | b :: rest =>
    let (n, whole) := front b rest
    let text := if whole then String.fromUTF8? ⟨(b :: rest.take n).toArray⟩ else none
    ((text.map String.toList).getD ['\ufffd']) ++ lossyChars (rest.drop n)
termination_by bytes => bytes.length
decreasing_by
  simp only [List.length_cons, List.length_drop]
  omega

/-- **The text of bytes**, whatever they are. -/
def lossyText (bytes : List UInt8) : String := .ofList (lossyChars bytes)

end Tabular
