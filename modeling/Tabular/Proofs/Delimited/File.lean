import Mathlib.Data.List.Basic
import Tabular.Intake.Csv
import Tabular.Proofs.Delimited.Bytes
import Tabular.Proofs.Header
import Tabular.Proofs.Words

/-!
# Files that were written

A file is a table of fields as bytes. Its first record names columns, and every other one that is
not blank gives a row.

* `write_of_width`: records of one width are written.
* `fieldText?_utf8` and `recordTexts?_utf8`: the bytes of a field, or of a record, are text again.
* `recordRow?_of_mem`: a record with a field that is not blank gives a row.
* `readCsv_write`: **the records that were written are those that a file is read as.**
-/

namespace Tabular

open Delimited

/-- Records of one width are written. -/
theorem Delimited.write_of_width {r : List String} {rs : List (List String)}
    (h : ∀ s ∈ rs, s.length = r.length) :
    write (r :: rs) = .ok (.ofList ((r :: rs).flatMap record)) := by
  have hnone : (r :: rs).find? (·.length != r.length) = none := by
    simpa using h
  unfold write
  simp only [List.head?_cons, Option.map_some, Option.getD_some, hnone]

/-! ## Texts of fields -/

/-- The bytes of a field are its text again. -/
theorem fieldText?_utf8 (cs : List Char) :
    fieldText? (cs.flatMap String.utf8EncodeChar) = some (.ofList cs) := by
  have hbytes : (⟨(cs.flatMap String.utf8EncodeChar).toArray⟩ : ByteArray) = cs.utf8Encode := by
    rw [List.utf8Encode, ByteArray.ext_iff, List.data_toByteArray]
  unfold fieldText? String.fromUTF8?
  rw [hbytes, dif_pos ByteArray.isValidUTF8_utf8Encode]
  rfl

/-- What reads one item back reads all items of a list back. -/
theorem mapM_map_eq_some {α β : Type} {f : α → Option β} {g : β → α}
    (h : ∀ b, f (g b) = some b) (bs : List β) : (bs.map g).mapM f = some bs := by
  induction bs with
  | nil => rfl
  | cons b bs ih => simp [h, ih]

/-- The bytes of a record are its texts again. -/
theorem recordTexts?_utf8 (r : List String) :
    recordTexts? (r.map (·.toList.flatMap String.utf8EncodeChar)) = some r :=
  mapM_map_eq_some (fun f => by rw [fieldText?_utf8, String.ofList_toList]) r

/-! ## Records that give rows -/

/-- A record gives a row if it is as wide as the columns and not blank. -/
theorem recordRow?_of_mem {columns fields : List String} {f : String} (hf : f ∈ fields)
    (hblank : (trimmed f).isEmpty = false) (hwidth : fields.length = columns.length) :
    recordRow? columns fields = some (.ofList (columns.zip (fields.map Cell.ofField))) := by
  have hall : fields.all (fun f => (trimmed f).isEmpty) = false :=
    List.all_eq_false.2 ⟨f, hf, by simp [hblank]⟩
  unfold recordRow?
  rw [hall, hwidth, bne_self_eq_false]
  rfl

/-! ## Whole files -/

/-- A written table starts with a byte order mark only if its first field does. -/
theorem head?_record_append {f : String} {more : List String} (hmore : more ≠ [])
    (rest : List Char) (hf : f.toList.head? ≠ some '\ufeff') :
    (record (f :: more) ++ rest).head? ≠ some '\ufeff' := by
  obtain ⟨g, more, rfl⟩ := List.exists_cons_of_ne_nil hmore
  simp only [record, List.map_cons, field]
  split
  · simp [List.intercalate]
  · cases hcs : f.toList with
    | nil => simp [List.intercalate]
    | cons c cs =>
      rw [hcs] at hf
      simpa [List.intercalate] using hf

/-- **A table that was written is read back**, if its records have one width of at least two. -/
theorem readCsv_write {f : String} {more : List String} {rs : List (List String)} (name : String)
    (hmore : more ≠ []) (hrs : ∀ r ∈ rs, r.length = (f :: more).length)
    (hf : f.toList.head? ≠ some '\ufeff') :
    readCsv name (String.ofList (((f :: more) :: rs).flatMap record)).toUTF8.data.toList =
      .ok ⟨name, cleanHeaders (f :: more),
        rs.filterMap (recordRow? (cleanHeaders (f :: more)))⟩ := by
  have htwo : 2 ≤ (f :: more).length := Nat.succ_le_succ (List.length_pos_of_ne_nil hmore)
  have hwide : ∀ r ∈ (f :: more) :: rs, 2 ≤ r.length := by
    rw [List.forall_mem_cons]
    refine ⟨htwo, ?_⟩
    intro r hr
    rw [hrs r hr]
    exact htwo
  have hhead : (((f :: more) :: rs).flatMap record).head? ≠ some '\ufeff' := by
    rw [List.flatMap_cons]
    exact head?_record_append hmore _ hf
  have hrows : (rs.map (·.map (·.toList.flatMap String.utf8EncodeChar))).mapM recordTexts? =
      some rs := mapM_map_eq_some recordTexts?_utf8 rs
  unfold readCsv
  rw [byteRecords_write hwide hhead, List.map_cons]
  simp only [recordTexts?_utf8, hrows]

end Tabular
