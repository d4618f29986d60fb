import Mathlib.Data.List.Basic
import Tabular.Delimited.Reader
import Tabular.Delimited.Writer

/-!
# Reading what was written

The writer puts quotes around a field when it has to, and the reader takes them off again. A field
ends where the writer ends it, since inside quotes no comma and no line break counts.

* `charMark` is what characters mean to the reader, `charMark_eq_plain` that the writer quotes the
  fields in which some character means something.
* `run_comma`, `run_lineEnd`, `run_plain` and `run_inside` are the steps of the reader, and
  `run_field` is a whole written field.
* `records_write`: **reading gives back the records that were written**, if all of them have at
  least two fields.
-/

namespace Tabular.Delimited

/-! ## The steps of the reader -/

section Steps

variable {α : Type} {mark : α → Mark} {p : Phase} {a : α} {field : List α}
  {fields : List (List α)} {rest : List α}

/-- Outside quotes a comma ends the field. -/
theorem run_comma (hp : p ≠ .quoted) (ha : mark a = .comma) :
    run mark p field fields (a :: rest) =
      run mark .fieldStart [] (field.reverse :: fields) rest := by
  cases p <;> simp_all [run]

/-- Outside quotes the end of a line ends the record. -/
theorem run_lineEnd (hp : p ≠ .quoted) (hstart : p ≠ .recordStart) (ha : mark a = .lineEnd) :
    run mark p field fields (a :: rest) =
      (field.reverse :: fields).reverse :: run mark .recordStart [] [] rest := by
  cases p <;> simp_all [run]

/-- Outside quotes a plain unit belongs to the field. -/
theorem run_plain (hp : p ≠ .quoted) (ha : mark a = .plain) :
    run mark p field fields (a :: rest) = run mark .unquoted (a :: field) fields rest := by
  cases p <;> simp_all [run]

/-- Inside quotes every unit but a quote belongs to the field. -/
theorem run_inside (ha : mark a ≠ .quote) :
    run mark .quoted field fields (a :: rest) = run mark .quoted (a :: field) fields rest := by
  cases h : mark a <;> simp_all [run]

end Steps

/-! ## Fields -/

/-- The meaning of a character. -/
def charMark (c : Char) : Mark :=
  if c = ',' then .comma
  else if c = '"' then .quote
  else if c = '\n' ∨ c = '\r' then .lineEnd
  else .plain

/-- The writer quotes for the characters that mean something to the reader. -/
theorem charMark_eq_plain {c : Char} : charMark c = .plain ↔ needsQuotes c = false := by
  unfold charMark needsQuotes
  split
  · simp_all
  split
  · simp_all
  split
  · rename_i h
    rcases h with rfl | rfl <;> simp
  · simp_all

theorem charMark_ne_quote {c : Char} (h : c ≠ '"') : charMark c ≠ .quote := by
  unfold charMark
  rw [if_neg h]
  split
  · exact nofun
  split
  · exact nofun
  · exact nofun

variable {p : Phase} {fs : List (List Char)}

/-- Plain characters are taken as they are. -/
theorem run_plains {cs : List Char} (hcs : ∀ c ∈ cs, charMark c = .plain) (acc rest : List Char) :
    run charMark .unquoted acc fs (cs ++ rest) =
      run charMark .unquoted (cs.reverse ++ acc) fs rest := by
  induction cs generalizing acc with
  | nil => rfl
  | cons c cs ih =>
    rw [List.forall_mem_cons] at hcs
    rw [List.cons_append, run_plain (p := .unquoted) nofun hcs.1, ih hcs.2, List.reverse_cons,
      List.append_assoc, List.singleton_append]

/-- **Inside quotes any characters are taken as they are**, up to the quote that closes them. -/
theorem run_doubled (cs acc rest : List Char) :
    run charMark .quoted acc fs (doubled cs ++ '"' :: rest) =
      run charMark .closed (cs.reverse ++ acc) fs rest := by
  induction cs generalizing acc with
  | nil => rfl
  | cons c cs ih =>
    unfold doubled
    split
    · -- the first of two quotes seems to close the field, the second one opens it again
      rename_i hc
      subst hc
      show run charMark .quoted ('"' :: acc) fs (doubled cs ++ '"' :: rest) = _
      rw [ih, List.reverse_cons, List.append_assoc, List.singleton_append]
    · rename_i hc
      rw [List.cons_append, run_inside (charMark_ne_quote hc), ih, List.reverse_cons,
        List.append_assoc, List.singleton_append]

/-- A field that is about to begin. -/
def Opening (p : Phase) : Prop := p = .recordStart ∨ p = .fieldStart

/-- **A written field is read**, after which the reader is outside quotes. If it still stands at
the start of a record, it did so before. -/
theorem run_field (hp : Opening p) (fs : List (List Char)) (cs rest : List Char) :
    ∃ q, q ≠ .quoted ∧ (q = .recordStart → p = .recordStart) ∧
      run charMark p [] fs (field cs ++ rest) = run charMark q cs.reverse fs rest := by
  unfold field
  by_cases hquotes : cs.any needsQuotes = true
  · have hopen : run charMark p [] fs ('"' :: (doubled cs ++ '"' :: rest)) =
        run charMark .quoted [] fs (doubled cs ++ '"' :: rest) := by
      rcases hp with rfl | rfl <;> rfl
    refine ⟨.closed, nofun, nofun, ?_⟩
    rw [if_pos hquotes, List.cons_append, List.append_assoc, List.singleton_append, hopen,
      run_doubled, List.append_nil]
  · rw [if_neg hquotes]
    have hplain : ∀ c ∈ cs, charMark c = .plain := by
      intro c hc
      rw [charMark_eq_plain, Bool.eq_false_iff]
      intro hneeds
      exact hquotes (List.any_eq_true.2 ⟨c, hc, hneeds⟩)
    -- an empty field leaves the reader where it was
    cases cs with
    | nil => exact ⟨p, by rcases hp with rfl | rfl <;> exact nofun, id, rfl⟩
    | cons c cs =>
      rw [List.forall_mem_cons] at hplain
      have hout : p ≠ .quoted := by rcases hp with rfl | rfl <;> exact nofun
      refine ⟨.unquoted, nofun, nofun, ?_⟩
      rw [List.cons_append, run_plain hout hplain.1, run_plains hplain.2, List.reverse_cons]

/-- A field with a comma behind it. -/
theorem run_field_comma (hp : Opening p) (cs rest : List Char) :
    run charMark p [] fs (field cs ++ ',' :: rest) =
      run charMark .fieldStart [] (cs :: fs) rest := by
  obtain ⟨q, hq, -, h⟩ := run_field hp fs cs (',' :: rest)
  rw [h, run_comma hq rfl, List.reverse_reverse]

/-- The last field of a record, which is not the only one. -/
theorem run_field_lineEnd (cs rest : List Char) :
    run charMark .fieldStart [] fs (field cs ++ '\n' :: rest) =
      (cs :: fs).reverse :: run charMark .recordStart [] [] rest := by
  obtain ⟨q, hq, hstart, h⟩ := run_field (.inr rfl) fs cs ('\n' :: rest)
  have hq' : q ≠ .recordStart := fun h => by cases hstart h
  rw [h, run_lineEnd hq hq' rfl, List.reverse_reverse]

/-! ## Records -/

/-- The fields of a record after its first one. -/
theorem run_fields (cs : List Char) (more : List (List Char)) (rest : List Char) :
    run charMark .fieldStart [] fs
        (List.intercalate [','] ((cs :: more).map field) ++ '\n' :: rest) =
      (fs.reverse ++ cs :: more) :: run charMark .recordStart [] [] rest := by
  induction more generalizing cs fs with
  | nil => simpa using run_field_lineEnd cs rest
  | cons cs' more ih =>
    have hsplit : List.intercalate [','] ((cs :: cs' :: more).map field) ++ '\n' :: rest =
        field cs ++ ',' :: (List.intercalate [','] ((cs' :: more).map field) ++ '\n' :: rest) := by
      simp [List.intercalate]
    rw [hsplit, run_field_comma (.inr rfl), ih]
    simp

/-- **A written record is read**, if it has at least two fields: the only field of a record could
be empty, and its line would be passed over. -/
theorem run_record {r : List String} (hr : 2 ≤ r.length) (rest : List Char) :
    run charMark .recordStart [] [] (record r ++ rest) =
      r.map String.toList :: run charMark .recordStart [] [] rest := by
  match r, hr with
  | f :: g :: more, _ =>
    have hsplit : record (f :: g :: more) ++ rest = field f.toList ++ ',' ::
        (List.intercalate [','] ((g.toList :: more.map String.toList).map field) ++
          '\n' :: rest) := by
      simp [record, List.intercalate, Function.comp_def]
    rw [hsplit, run_field_comma (.inl rfl), run_fields]
    rfl

/-- **Reading gives back the records that were written.** -/
theorem records_write {rs : List (List String)} (hrs : ∀ r ∈ rs, 2 ≤ r.length) :
    records charMark (rs.flatMap record) = rs.map (·.map String.toList) := by
  unfold records
  induction rs with
  | nil => rfl
  | cons r rs ih =>
    rw [List.forall_mem_cons] at hrs
    rw [List.flatMap_cons, run_record hrs.1, ih hrs.2, List.map_cons]

example : records charMark (record ["a,b", "", "say \"x\"\n"]) =
    [["a,b".toList, [], "say \"x\"\n".toList]] := by decide

end Tabular.Delimited
