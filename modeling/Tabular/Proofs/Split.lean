import Mathlib.Data.List.TakeWhile
import Tabular.Text.Split

/-!
# Split texts

* `splitFirst?_append`: a text is split at the first separator, and only if it has one.
* `parts_induction` goes through a text part by part.
* `splitAll_intercalate` and `intercalate_splitAll`: splitting at every separator undoes joining, and
  the other way round.
-/

namespace Tabular

variable {p : Char → Bool} {sep c : Char} {cs ds : List Char}

/-- No character of a text without a separator passes the test for one. -/
theorem beq_of_not_mem (h : sep ∉ cs) : ∀ x ∈ cs, (x == sep) = false := by
  intro x hx
  rw [beq_eq_false_iff_ne]
  rintro rfl
  exact h hx

/-! ## Up to the first separator -/

theorem dropWhile_of_none (hcs : ∀ x ∈ cs, p x = false) : cs.dropWhile (!p ·) = [] :=
  List.dropWhile_eq_nil_iff.2 fun x hx => by simp [hcs x hx]

theorem dropWhile_append_cons (hcs : ∀ x ∈ cs, p x = false) (hc : p c = true) :
    (cs ++ c :: ds).dropWhile (!p ·) = c :: ds := by
  rw [List.dropWhile_append_of_pos fun x hx => by simp [hcs x hx],
    List.dropWhile_cons_of_neg (by simp [hc])]

theorem takeWhile_append_cons (hcs : ∀ x ∈ cs, p x = false) (hc : p c = true) :
    (cs ++ c :: ds).takeWhile (!p ·) = cs := by
  rw [List.takeWhile_append_of_pos fun x hx => by simp [hcs x hx],
    List.takeWhile_cons_of_neg (by simp [hc]), List.append_nil]

/-- A text is split at the first character that passes the test. -/
theorem splitFirst?_append (hcs : ∀ x ∈ cs, p x = false) (hc : p c = true) :
    splitFirst? p (cs ++ c :: ds) = some (cs, ds) := by
  unfold splitFirst?
  rw [dropWhile_append_cons hcs hc, takeWhile_append_cons hcs hc]

/-- A text without a character that passes the test is not split. -/
theorem splitFirst?_eq_none (hcs : ∀ x ∈ cs, p x = false) : splitFirst? p cs = none := by
  unfold splitFirst?
  rw [dropWhile_of_none hcs]

/-- What stands before the first separator, or all of the text if there is none. -/
theorem getD_fst_splitFirst? (p : Char → Bool) (cs : List Char) :
    ((splitFirst? p cs).map Prod.fst).getD cs = cs.takeWhile (!p ·) := by
  unfold splitFirst?
  split
  · rename_i h
    exact (List.takeWhile_eq_self_iff.2 (List.dropWhile_eq_nil_iff.1 h)).symm
  · rfl

/-! ## Every separator -/

theorem splitAll_of_not_mem (hcs : ∀ x ∈ cs, p x = false) : splitAll p cs = [cs] := by
  unfold splitAll
  split
  · rfl
  · rename_i h
    rw [dropWhile_of_none hcs] at h
    cases h

theorem splitAll_append (hcs : ∀ x ∈ cs, p x = false) (hc : p c = true) :
    splitAll p (cs ++ c :: ds) = cs :: splitAll p ds := by
  rw [splitAll]
  split
  · rename_i h
    rw [dropWhile_append_cons hcs hc] at h
    cases h
  · rename_i h
    rw [dropWhile_append_cons hcs hc] at h
    rw [takeWhile_append_cons hcs hc, (List.cons.inj h).2]

/-- Parts without a separator are found again. -/
theorem splitAll_intercalate {parts : List (List Char)} (hne : parts ≠ [])
    (h : ∀ part ∈ parts, sep ∉ part) :
    splitAll (· == sep) (List.intercalate [sep] parts) = parts := by
  induction parts with
  | nil => exact absurd rfl hne
  | cons part parts ih =>
    rw [List.forall_mem_cons] at h
    cases parts with
    | nil =>
      rw [List.intercalate_singleton]
      exact splitAll_of_not_mem (beq_of_not_mem h.1)
    | cons next more =>
      rw [List.intercalate_cons_cons, List.append_assoc, List.singleton_append,
        splitAll_append (beq_of_not_mem h.1) (beq_self_eq_true sep), ih (List.cons_ne_nil _ _) h.2]

theorem splitAll_ne_nil : splitAll p cs ≠ [] := by
  unfold splitAll
  split <;> exact List.cons_ne_nil _ _

/-- A text is a single part, or a part, a separator and a text. -/
theorem parts_induction (sep : Char) {P : List Char → Prop}
    (single : ∀ part, sep ∉ part → P part)
    (more : ∀ part rest, sep ∉ part → P rest → P (part ++ sep :: rest)) (cs : List Char) : P cs := by
  by_cases h : sep ∈ cs
  · obtain ⟨part, rest, rfl, hpart⟩ := List.eq_append_cons_of_mem h
    exact more part rest hpart (parts_induction sep single more rest)
  · exact single cs h
termination_by cs.length
decreasing_by
  subst_vars
  simp
  omega

/-- A part has no separator. -/
theorem not_mem_of_mem_splitAll {part : List Char} (h : part ∈ splitAll (· == sep) cs) :
    sep ∉ part := by
  induction cs using parts_induction sep with
  | single front hfront =>
    rw [splitAll_of_not_mem (beq_of_not_mem hfront), List.mem_singleton] at h
    rwa [h]
  | more front rest hfront ih =>
    rw [splitAll_append (beq_of_not_mem hfront) (beq_self_eq_true sep), List.mem_cons] at h
    rcases h with rfl | h
    · exact hfront
    · exact ih h

/-- The parts put together again are the text. -/
theorem intercalate_splitAll (sep : Char) (cs : List Char) :
    List.intercalate [sep] (splitAll (· == sep) cs) = cs := by
  induction cs using parts_induction sep with
  | single front hfront =>
    rw [splitAll_of_not_mem (beq_of_not_mem hfront), List.intercalate_singleton]
  | more front rest hfront ih =>
    obtain ⟨part, parts, hparts⟩ :=
      List.exists_cons_of_ne_nil (splitAll_ne_nil : splitAll (· == sep) rest ≠ [])
    rw [splitAll_append (beq_of_not_mem hfront) (beq_self_eq_true sep)]
    rw [hparts] at ih ⊢
    rw [List.intercalate_cons_cons, ih, List.append_assoc, List.singleton_append]

end Tabular
