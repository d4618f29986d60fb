import Mathlib.Data.List.Basic
import Tabular.Proofs.Delimited.Roundtrip

/-!
# Delimited text as bytes

Files are cut into fields before they are known to be text. In UTF-8 the bytes of a character that
means something to the reader are that character alone, and no other character has such a byte, so
cutting the bytes of a text is the same as cutting its characters.

* `Spells` says of two kinds of units that one spells the other; `Spells.records`: **what is cut
  from the spelling is the spelling of what is cut.**
* `spells_utf8`: bytes spell characters.
* `withoutMark_utf8`: no byte order mark is taken off a text that starts with another character.
* `bytes_ofList`: the bytes of a text are those of its characters.
* `byteRecords_write`: the bytes of a written table are cut into the bytes of its fields.
-/

namespace Tabular.Delimited

/-! ## Spelling -/

section Spelling

variable {α β : Type} {mark : α → Mark} {mark' : β → Mark} {spell : α → List β}

/-- **Units that are spelled by others with the same meaning**; only a plain unit is spelled by
more than one. -/
structure Spells (mark : α → Mark) (mark' : β → Mark) (spell : α → List β) : Prop where
  nonempty : ∀ a, spell a ≠ []
  single : ∀ a, mark a ≠ .plain → ∃ b, spell a = [b]
  marks : ∀ a, ∀ b ∈ spell a, mark' b = mark a

/-- Where the reader stands after a plain unit. -/
def Phase.taken : Phase → Phase
  | .quoted => .quoted
  | _ => .unquoted

theorem run_taken {p : Phase} {a : α} (ha : mark a = .plain) (field : List α)
    (fields : List (List α)) (rest : List α) :
    run mark p field fields (a :: rest) = run mark p.taken (a :: field) fields rest := by
  cases p with
  | quoted => exact run_inside (by rw [ha]; exact nofun)
  | recordStart | fieldStart | unquoted | closed => exact run_plain nofun ha

/-- Plain units in a row. -/
theorem run_takens {bs : List β} (hbs : ∀ b ∈ bs, mark' b = .plain) (hne : bs ≠ []) (p : Phase)
    (field : List β) (fields : List (List β)) (rest : List β) :
    run mark' p field fields (bs ++ rest) =
      run mark' p.taken (bs.reverse ++ field) fields rest := by
  induction bs generalizing p field with
  | nil => exact absurd rfl hne
  | cons b bs ih =>
    rw [List.forall_mem_cons] at hbs
    rw [List.cons_append, run_taken hbs.1]
    by_cases hnil : bs = []
    · subst hnil
      rfl
    · have htaken : p.taken.taken = p.taken := by cases p <;> rfl
      rw [ih hbs.2 hnil, htaken, List.reverse_cons, List.append_assoc, List.singleton_append]

/-- Reading on in the spelling. -/
theorem Spells.run (h : Spells mark mark' spell) (p : Phase) (field : List α)
    (fields : List (List α)) (units : List α) :
    run mark' p (field.reverse.flatMap spell).reverse (fields.map (·.flatMap spell))
        (units.flatMap spell) =
      (run mark p field fields units).map (·.map (·.flatMap spell)) := by
  induction units generalizing p field fields with
  | nil => cases p <;> simp [Delimited.run]
  | cons a units ih =>
    rw [List.flatMap_cons]
    by_cases ha : mark a = .plain
    · have hplain : ∀ b ∈ spell a, mark' b = .plain := fun b hb => (h.marks a b hb).trans ha
      have hfield : (spell a).reverse ++ (field.reverse.flatMap spell).reverse =
          ((a :: field).reverse.flatMap spell).reverse := by
        simp
      rw [run_takens hplain (h.nonempty a), run_taken ha, hfield, ih]
    · -- a unit with a meaning is spelled by one with the same meaning, at which both readers turn
      obtain ⟨b, hb⟩ := h.single a ha
      have hmark : mark' b = mark a := h.marks a b (by simp [hb])
      rw [hb, List.singleton_append]
      cases hm : mark a with
      | plain => exact absurd hm ha
      | comma | quote | lineEnd =>
        cases p <;> simp [Delimited.run, hmark, hm, ← ih, hb]

/-- **What is cut from the spelling is the spelling of what is cut.** -/
theorem Spells.records (h : Spells mark mark' spell) (units : List α) :
    records mark' (units.flatMap spell) = (records mark units).map (·.map (·.flatMap spell)) :=
  h.run .recordStart [] [] units

end Spelling

/-! ## UTF-8 -/

/-- The meaning of a code, the same for characters and for bytes. -/
def codeMark (n : Nat) : Mark :=
  if n = 0x2c then .comma
  else if n = 0x22 then .quote
  else if n = 0x0a ∨ n = 0x0d then .lineEnd
  else .plain

theorem byteMark_eq (b : UInt8) : byteMark b = codeMark b.toNat := by
  simp [byteMark, codeMark, ← UInt8.toNat_inj]

theorem charMark_eq (c : Char) : charMark c = codeMark c.toNat := by
  simp [charMark, codeMark, ← Char.toNat_inj]

theorem codeMark_of_le {n : Nat} (h : 0x80 ≤ n) : codeMark n = .plain := by
  unfold codeMark
  rw [if_neg (by omega), if_neg (by omega), if_neg (by omega)]

/-- A character of the first half of a byte is that byte, any other has bytes of the second. -/
theorem utf8EncodeChar_cases (c : Char) :
    (c.toNat < 0x80 ∧ String.utf8EncodeChar c = [.ofNat c.toNat]) ∨
      (0x80 ≤ c.toNat ∧ ∀ b ∈ String.utf8EncodeChar c, 0x80 ≤ b.toNat) := by
  by_cases hc : c.toNat < 0x80
  · refine .inl ⟨hc, ?_⟩
    exact if_pos (Nat.le_of_lt_succ hc)
  · refine .inr ⟨Nat.le_of_not_lt hc, ?_⟩
    have hc' : ¬c.val.toNat ≤ 0x7f := fun h => hc (Nat.lt_succ_of_le h)
    unfold String.utf8EncodeChar
    simp only [hc', if_false]
    split
    · simp [UInt8.toNat_ofNat']
      omega
    split
    · simp [UInt8.toNat_ofNat']
      omega
    · simp [UInt8.toNat_ofNat']
      omega

/-- **Bytes spell characters.** -/
theorem spells_utf8 : Spells charMark byteMark String.utf8EncodeChar where
  nonempty c := by
    rw [← List.length_pos_iff, String.length_utf8EncodeChar]
    exact c.utf8Size_pos
  single c hc := by
    rcases utf8EncodeChar_cases c with ⟨-, h⟩ | ⟨h, -⟩
    · exact ⟨_, h⟩
    · exact absurd (by rw [charMark_eq, codeMark_of_le h]) hc
  marks c b hb := by
    rw [byteMark_eq, charMark_eq]
    rcases utf8EncodeChar_cases c with ⟨hc, h⟩ | ⟨hc, h⟩
    · rw [h, List.mem_singleton] at hb
      rw [hb, UInt8.toNat_ofNat', Nat.mod_eq_of_lt (by omega)]
    · rw [codeMark_of_le hc, codeMark_of_le (h b hb)]

/-- The first character can be told from the bytes of a text. -/
theorem eq_of_utf8_append {c c' : Char} {bs bs' : List UInt8}
    (h : String.utf8EncodeChar c ++ bs = String.utf8EncodeChar c' ++ bs') : c = c' := by
  have hdecode := congrArg (fun l : List UInt8 => l.toByteArray.utf8DecodeChar? 0) h
  simpa [List.toByteArray_append, ByteArray.utf8DecodeChar?_utf8EncodeChar_append] using hdecode

/-- No byte order mark is taken off a text that starts with another character. -/
theorem withoutMark_utf8 {cs : List Char} (hcs : cs.head? ≠ some '\ufeff') :
    withoutMark (cs.flatMap String.utf8EncodeChar) = cs.flatMap String.utf8EncodeChar := by
  unfold withoutMark
  split
  · rename_i rest hbytes
    cases cs with
    | nil => cases hbytes
    | cons c cs =>
      -- the three bytes are those of one character
      have happend : String.utf8EncodeChar c ++ cs.flatMap String.utf8EncodeChar =
          String.utf8EncodeChar '\ufeff' ++ rest := hbytes
      have hc : c = '\ufeff' := eq_of_utf8_append happend
      exact absurd (congrArg some hc) hcs
  · rfl

/-- The bytes of a text. -/
theorem bytes_ofList (cs : List Char) :
    (String.ofList cs).toUTF8.data.toList = cs.flatMap String.utf8EncodeChar := by
  show (String.ofList cs).toByteArray.data.toList = _
  rw [String.toByteArray_ofList, List.utf8Encode, List.data_toByteArray]

/-- The bytes of a written table are cut into the bytes of its fields. -/
theorem byteRecords_write {rs : List (List String)} (hrs : ∀ r ∈ rs, 2 ≤ r.length)
    (hhead : (rs.flatMap record).head? ≠ some '\ufeff') :
    byteRecords (String.ofList (rs.flatMap record)).toUTF8.data.toList =
      rs.map (·.map (·.toList.flatMap String.utf8EncodeChar)) := by
  unfold byteRecords
  rw [bytes_ofList, withoutMark_utf8 hhead, spells_utf8.records, records_write hrs]
  simp

end Tabular.Delimited
