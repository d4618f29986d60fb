import Tabular.Json.Basic
import Tabular.Decimal.Numeral

/-!
# Reading JSON text

A text is read into a `Document` in one pass. Reading never fails: where the text stops being
JSON the document has a `broken` leaf, and nothing after it. So a reader of a record that
walks its document in order meets the first fault of the text at its place, before or after
a member of the wrong shape; and a member that nobody asks for is never looked at.

* `Document.read` reads the value in front of a text and returns what is left.
* `Document.ofBytes` reads a whole text.
* A text leaf without a string had an escape or bytes that stand for no character.
* A number leaf may lie beyond the range of doubles.
-/

namespace Tabular.Json

/-- A number of a document. -/
inductive Numeric where
  | int (n : Int)
  | float (x : Float)
  | beyond
  deriving DecidableEq

/-- A JSON text as read, up to the place where it breaks. -/
inductive Document where
  | null
  | bool (b : Bool)
  | number (n : Numeric)
  | text (s : Option String)
  | list (items : List Document)
  | object (members : List (Option String × Document))
  | broken

/-- What is left of a text by a reader that never goes back. -/
abbrev Left (bs : List UInt8) := { rest : List UInt8 // rest.length ≤ bs.length }

/-- What is left of a text by a reader that takes at least one byte. -/
abbrev Shorter (bs : List UInt8) := { rest : List UInt8 // rest.length < bs.length }

/-- The blanks between the parts of a text. -/
def isSpace (b : UInt8) : Bool := b == 0x20 || b == 0x0a || b == 0x0d || b == 0x09

/-- Takes the first byte that is not blank. -/
def next? : (bs : List UInt8) → Option (UInt8 × Shorter bs)
  | [] => none
  | b :: rest =>
    if isSpace b then
      (next? rest).map fun p => (p.1, ⟨p.2.val, Nat.lt_succ_of_lt p.2.property⟩)
    else some (b, ⟨rest, Nat.lt_succ_self _⟩)

/-- Takes a given byte if it is the first that is not blank. -/
def eat? (b : UInt8) (bs : List UInt8) : Option (Shorter bs) :=
  match next? bs with
  | some (c, r) => if c == b then some r else none
  | none => none

/-- The digits of a number. -/
def isDigitByte (b : UInt8) : Bool := 0x30 ≤ b && b ≤ 0x39

/-- The value of a run of digits. -/
def digitBytesValue (ds : List UInt8) : Nat := ds.foldl (fun n d => 10 * n + (d.toNat - 0x30)) 0

/-- The value of a hexadecimal digit. -/
def hexValue? (b : UInt8) : Option Nat :=
  if 0x30 ≤ b && b ≤ 0x39 then some (b.toNat - 0x30)
  else if 0x41 ≤ b && b ≤ 0x46 then some (b.toNat - 0x41 + 10)
  else if 0x61 ≤ b && b ≤ 0x66 then some (b.toNat - 0x61 + 10)
  else none

/-- A whole number keeps its value when it fits 64 bits, signed or not; negative zero is a
double. -/
def Numeric.whole (neg : Bool) (n : Nat) : Numeric :=
  if neg then
    if n = 0 then .float (-0.0) else if n ≤ wordLimit / 2 then .int (-n) else .float (-nearest n 0)
  else if n < wordLimit then .int n else .float (nearest n 0)

/-- The nearest double of a decimal. -/
def Numeric.decimal (neg : Bool) (digits : Nat) (exponent : Int) : Numeric :=
  let x := nearest digits exponent
  if x.isFinite then .float (if neg then -x else x) else .beyond

/-- The fraction in front: a point and at least one digit, or nothing. -/
def fraction? : List UInt8 → Option (List UInt8)
  | 0x2e :: rest =>
    match rest.takeWhile isDigitByte with
    | [] => none
    | ds => some ds
  | _ => some []

/-- The exponent in front, and its length: `e`, a sign and at least one digit, or nothing. -/
def power? : List UInt8 → Option (Option Int × Nat)
  | b :: rest =>
    if b == 0x65 || b == 0x45 then
      let sign := match rest with
        | 0x2b :: _ | 0x2d :: _ => 1
        | _ => 0
      let neg := rest.head? == some 0x2d
      match (rest.drop sign).takeWhile isDigitByte with
      | [] => none
      | ds =>
        let n : Int := digitBytesValue ds
        some (some (if neg then -n else n), 1 + sign + ds.length)
    else some (none, 0)
  | [] => some (none, 0)

/-- The number in front of a text. The whole part has no leading zero. -/
def number? (bs : List UInt8) : Option (Numeric × Left bs) :=
  let sign := if bs.head? == some 0x2d then 1 else 0
  let whole := (bs.drop sign).takeWhile isDigitByte
  if whole = [] ∨ (whole.head? = some 0x30 ∧ whole.length > 1) then none
  else
    let afterWhole := sign + whole.length
    match fraction? (bs.drop afterWhole) with
    | none => none
    | some frac =>
      let afterFrac := afterWhole + if frac = [] then 0 else frac.length + 1
      match power? (bs.drop afterFrac) with
      | none => none
      | some (e, n) =>
        let value :=
          if frac = [] ∧ e.isNone then Numeric.whole (sign == 1) (digitBytesValue whole)
          else
            Numeric.decimal (sign == 1) (digitBytesValue (whole ++ frac))
              (e.getD 0 - frac.length)
        some (value, ⟨bs.drop (afterFrac + n), by simp⟩)

/-- A part of a quoted text: a byte that stands for itself, or a sixteen-bit code. -/
inductive Piece where
  | byte (b : UInt8)
  | code (n : Nat)

/-- The byte that a one-letter escape stands for. -/
def escape? (b : UInt8) : Option UInt8 :=
  match b with
  | 0x22 => some 0x22
  | 0x5c => some 0x5c
  | 0x2f => some 0x2f
  | 0x62 => some 0x08
  | 0x66 => some 0x0c
  | 0x6e => some 0x0a
  | 0x72 => some 0x0d
  | 0x74 => some 0x09
  | _ => none

/-- The code of four hexadecimal digits. -/
def hexCode? (a b c d : UInt8) : Option Nat := do
  return (← hexValue? a) * 4096 + (← hexValue? b) * 256 + (← hexValue? c) * 16 + (← hexValue? d)

/-- The pieces of a quoted text after its opening quote, up to the closing one. Control
characters may not stand in it. -/
def pieces? (acc : List Piece) : (bs : List UInt8) → Option (List Piece × Left bs)
  | [] => none
  | 0x22 :: rest => some (acc.reverse, ⟨rest, by simp⟩)
  | 0x5c :: 0x75 :: a :: b :: c :: d :: rest =>
    match hexCode? a b c d with
    | none => none
    | some n =>
      (pieces? (.code n :: acc) rest).map fun p => (p.1, ⟨p.2.val, by
        have := p.2.property
        simp only [List.length_cons]
        omega⟩)
  | 0x5c :: e :: rest =>
    match escape? e with
    | none => none
    | some b =>
      (pieces? (.byte b :: acc) rest).map fun p => (p.1, ⟨p.2.val, by
        have := p.2.property
        simp only [List.length_cons]
        omega⟩)
  | b :: rest =>
    if b < 0x20 || b == 0x5c then none
    else
      (pieces? (.byte b :: acc) rest).map fun p => (p.1, ⟨p.2.val, by
        have := p.2.property
        simp only [List.length_cons]
        omega⟩)

/-- The bytes of a character code in UTF-8. -/
def utf8 (n : Nat) : List UInt8 := (String.singleton (Char.ofNat n)).toUTF8.toList

/-- The bytes of the pieces. Codes of surrogates come in pairs. -/
def joinPieces? (acc : List UInt8) : List Piece → Option (List UInt8)
  | [] => some acc.reverse
  | .byte b :: rest => joinPieces? (b :: acc) rest
  | .code n :: rest =>
    if 0xdc00 ≤ n && n ≤ 0xdfff then none
    else if 0xd800 ≤ n && n ≤ 0xdbff then
      match rest with
      | .code m :: rest =>
        if 0xdc00 ≤ m && m ≤ 0xdfff then
          let c := 0x10000 + (n - 0xd800) * 0x400 + (m - 0xdc00)
          joinPieces? ((utf8 c).reverse ++ acc) rest
        else none
      | _ => none
    else joinPieces? ((utf8 n).reverse ++ acc) rest

/-- The string that the pieces spell, if they spell one. -/
def spell? (ps : List Piece) : Option String := do
  let bytes ← joinPieces? [] ps
  String.fromUTF8? ⟨bytes.toArray⟩

/-- Takes given bytes. -/
def literal? (word : String) (bs : List UInt8) : Option (Left bs) :=
  let w := word.toUTF8.toList
  if w.isPrefixOf bs then some ⟨bs.drop w.length, by simp⟩ else none

/-- The value in front of a text that is written as a word. -/
def named? (bs : List UInt8) : Option (Document × Left bs) :=
  ((literal? "null" bs).map (Document.null, ·)).or <|
    ((literal? "true" bs).map (Document.bool true, ·)).or <|
      (literal? "false" bs).map (Document.bool false, ·)

/-- The number or the word in front of a text. -/
def scalar? (bs : List UInt8) : Option (Document × Left bs) :=
  if bs.head?.any fun b => b == 0x2d || isDigitByte b then
    (number? bs).map fun p => (.number p.1, p.2)
  else named? bs

namespace Document

/-- What a text leaves when it breaks. -/
def stop (bs : List UInt8) : Document × Left bs := (.broken, ⟨[], Nat.zero_le _⟩)

mutual

/-- The value in front of a text. -/
def read (bs : List UInt8) : Document × Left bs :=
  match next? bs with
  | none => stop bs
  | some (b, r) =>
    have := r.property
    if b == 0x5b then
      match eat? 0x5d r.val with
      | some s => (.list [], ⟨s.val, by have := s.property; omega⟩)
      | none =>
        let (items, s) := readItems r.val
        (.list items, ⟨s.val, by have := s.property; omega⟩)
    else if b == 0x7b then
      match eat? 0x7d r.val with
      | some s => (.object [], ⟨s.val, by have := s.property; omega⟩)
      | none =>
        let (members, s) := readMembers r.val
        (.object members, ⟨s.val, by have := s.property; omega⟩)
    else if b == 0x22 then
      match pieces? [] r.val with
      | none => stop bs
      | some (ps, s) => (.text (spell? ps), ⟨s.val, by have := s.property; omega⟩)
    else
      match scalar? (b :: r.val) with
      | none => stop bs
      | some (d, s) => (d, ⟨s.val, Nat.le_trans s.property r.property⟩)
termination_by 2 * bs.length

/-- The items of a list that is not empty, up to its closing bracket. -/
def readItems (bs : List UInt8) : List Document × Left bs :=
  let (d, r) := read bs
  have := r.property
  match next? r.val with
  | none => ([d, .broken], ⟨[], Nat.zero_le _⟩)
  | some (b, s) =>
    have := s.property
    if b == 0x2c then
      let (ds, t) := readItems s.val
      (d :: ds, ⟨t.val, by have := t.property; omega⟩)
    else if b == 0x5d then ([d], ⟨s.val, by omega⟩)
    else ([d, .broken], ⟨[], Nat.zero_le _⟩)
termination_by 2 * bs.length + 1

/-- The members of an object that is not empty, up to its closing brace. -/
def readMembers (bs : List UInt8) : List (Option String × Document) × Left bs :=
  match eat? 0x22 bs with
  | none => ([(none, .broken)], ⟨[], Nat.zero_le _⟩)
  | some r₁ =>
    match pieces? [] r₁.val with
    | none => ([(none, .broken)], ⟨[], Nat.zero_le _⟩)
    | some (ps, r₂) =>
      match eat? 0x3a r₂.val with
      | none => ([(spell? ps, .broken)], ⟨[], Nat.zero_le _⟩)
      | some r₃ =>
        have := r₁.property
        have := r₂.property
        have := r₃.property
        let (d, r₄) := read r₃.val
        have := r₄.property
        match next? r₄.val with
        | none => ([(spell? ps, d), (none, .broken)], ⟨[], Nat.zero_le _⟩)
        | some (b, r₅) =>
          have := r₅.property
          if b == 0x2c then
            let (ms, s) := readMembers r₅.val
            ((spell? ps, d) :: ms, ⟨s.val, by have := s.property; omega⟩)
          else if b == 0x7d then ([(spell? ps, d)], ⟨r₅.val, by omega⟩)
          else ([(spell? ps, d), (none, .broken)], ⟨[], Nat.zero_le _⟩)
termination_by 2 * bs.length + 1

end

/-- **Reads a whole text**: a value with only blanks after it. -/
def ofBytes (bs : List UInt8) : Document :=
  let (d, r) := read bs
  if (next? r.val).isNone then d else .broken

end Document

end Tabular.Json
