import Mathlib

/-!
# First occurrences

`List.eraseDups` keeps every member of a list once, where it first occurs.

* `eraseDups_concat`: one more member is kept if it is new.
* `nodup_eraseDups` and `length_eraseDups`: no member is kept twice, and there are as many as there
  are different ones.
* `pairwise_idxOf_eraseDups`: **the members are kept in the order of their first places.**
* `sum_count_eraseDups`: the numbers of occurrences add up to the length, and those of some members
  to how many of these there are (`sum_count_eraseDups_filter`).
-/

namespace Tabular

variable {α : Type} [DecidableEq α] {l : List α}

theorem eraseDups_concat (l : List α) (a : α) :
    (l ++ [a]).eraseDups = if a ∈ l then l.eraseDups else l.eraseDups ++ [a] := by
  rw [List.eraseDups_append]
  by_cases h : a ∈ l <;> simp [List.removeAll, List.eraseDups_cons, h]

/-- No member is kept twice. -/
theorem nodup_eraseDups (l : List α) : l.eraseDups.Nodup := by
  induction l using List.reverseRecOn with
  | nil => exact .nil
  | append_singleton l a ih =>
    rw [eraseDups_concat]
    split
    · exact ih
    · rename_i ha
      rw [← List.concat_eq_append]
      exact .concat (by rwa [List.mem_eraseDups]) ih

theorem eraseDups_perm_dedup (l : List α) : l.eraseDups.Perm l.dedup := by
  rw [List.perm_ext_iff_of_nodup (nodup_eraseDups l) (List.nodup_dedup l)]
  intro a
  rw [List.mem_eraseDups, List.mem_dedup]

/-- There are as many as there are different members. -/
theorem length_eraseDups (l : List α) : l.eraseDups.length = l.toFinset.card := by
  rw [(eraseDups_perm_dedup l).length_eq, List.card_toFinset]

/-- However the members are ordered, as many of them are different. -/
theorem length_eraseDups_perm {l' : List α} (h : l.Perm l') :
    l.eraseDups.length = l'.eraseDups.length := by
  rw [length_eraseDups, length_eraseDups, List.toFinset_eq_of_perm _ _ h]

/-- **Members are kept in the order of their first places.** -/
theorem pairwise_idxOf_eraseDups (l : List α) :
    l.eraseDups.Pairwise fun a b => l.idxOf a < l.idxOf b := by
  induction l using List.reverseRecOn with
  | nil => exact .nil
  | append_singleton l c ih =>
    -- the places of the members so far stay what they are
    have hold : l.eraseDups.Pairwise fun a b => (l ++ [c]).idxOf a < (l ++ [c]).idxOf b := by
      refine ih.imp_of_mem fun {a b} ha hb hab => ?_
      rw [List.mem_eraseDups] at ha hb
      rwa [List.idxOf_append_of_mem ha, List.idxOf_append_of_mem hb]
    rw [eraseDups_concat]
    split
    · exact hold
    · rename_i hc
      refine List.pairwise_append.2 ⟨hold, List.pairwise_singleton _ _, ?_⟩
      intro a ha b hb
      rw [List.mem_eraseDups] at ha
      rw [List.mem_singleton.1 hb, List.idxOf_append_of_mem ha, List.idxOf_append_of_notMem hc]
      have := List.idxOf_lt_length_of_mem ha
      omega

/-- The numbers of occurrences add up to the length. -/
theorem sum_count_eraseDups (l : List α) : (l.eraseDups.map (l.count ·)).sum = l.length := by
  rw [((eraseDups_perm_dedup l).map _).sum_eq]
  exact List.sum_map_count_dedup_eq_length l

theorem sum_count_eraseDups_filter (p : α → Bool) (l : List α) :
    ((l.eraseDups.filter p).map (l.count ·)).sum = l.countP p := by
  rw [(((eraseDups_perm_dedup l).filter p).map _).sum_eq]
  exact List.sum_map_count_dedup_filter_eq_countP p l

end Tabular
