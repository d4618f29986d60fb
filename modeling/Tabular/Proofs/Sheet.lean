import Tabular.Sheet

/-!
# Changing one member of a list

Datasets and sheets are changed in place: `mapFirst` changes the first member that passes a
test, which is the one that looking up finds.

* `find?_split`: the member that is found, with what is before and after it.
* `mapFirst_split`: changing it there, and `forall_mem_replace`: what all members still have.
* `find?_mapFirst` and `mapFirst_comm`: a change is not seen elsewhere, and **changes of different
  members commute**.
-/

namespace Tabular

variable {α : Type} {p q : α → Bool} {f g : α → α} {l before after : List α} {a : α}

theorem find?_split (h : l.find? p = some a) :
    p a = true ∧ ∃ before after, l = before ++ a :: after ∧ ∀ x ∈ before, p x = false := by
  obtain ⟨ha, before, after, hl, hb⟩ := List.find?_eq_some_iff_append.1 h
  exact ⟨ha, before, after, hl, by simpa using hb⟩

theorem find?_append_cons (hb : ∀ x ∈ before, p x = false) (ha : p a = true) :
    (before ++ a :: after).find? p = some a :=
  List.find?_eq_some_iff_append.2 ⟨ha, before, after, rfl, by simpa using hb⟩

theorem mapFirst_split (f : α → α) (hb : ∀ x ∈ before, p x = false) (ha : p a = true) :
    mapFirst p f (before ++ a :: after) = before ++ f a :: after := by
  induction before with
  | nil => simp [mapFirst, ha]
  | cons x before ih =>
    rw [List.forall_mem_cons] at hb
    simp [mapFirst, hb.1, ih hb.2]

/-- What holds of all members holds of all when one is replaced by another that has it too. -/
theorem forall_mem_replace {P : α → Prop} {b : α} (h : ∀ x ∈ before ++ a :: after, P x)
    (hb : P b) : ∀ x ∈ before ++ b :: after, P x := by
  rw [List.forall_mem_append, List.forall_mem_cons] at h ⊢
  exact ⟨h.1, hb, h.2.2⟩

/-! ## Two places -/

theorem mapFirst_id (p : α → Bool) (l : List α) : mapFirst p (fun a => a) l = l := by
  induction l with
  | nil => rfl
  | cons a l ih =>
    unfold mapFirst
    rw [ih]
    split <;> rfl

/-- What is found elsewhere stays. -/
theorem find?_mapFirst (hpq : ∀ a, p a = true → q a = false) (hf : ∀ a, q (f a) = q a) :
    (mapFirst p f l).find? q = l.find? q := by
  induction l with
  | nil => rfl
  | cons a l ih =>
    unfold mapFirst
    split
    · rename_i hp
      have hq := hpq a hp
      rw [List.find?_cons_of_neg (by simp [hf, hq]), List.find?_cons_of_neg (by simp [hq])]
    · rw [List.find?_cons, List.find?_cons, ih]

/-- Changes of different members commute. -/
theorem mapFirst_comm (hpq : ∀ a, p a = true → q a = false) (hf : ∀ a, q (f a) = q a)
    (hg : ∀ a, p (g a) = p a) :
    mapFirst p f (mapFirst q g l) = mapFirst q g (mapFirst p f l) := by
  induction l with
  | nil => rfl
  | cons a l ih =>
    cases hp : p a with
    | true => simp [mapFirst, hp, hpq a hp, hf]
    | false => cases hq : q a <;> simp [mapFirst, hp, hq, hg, ih]

theorem map_mapFirst {β : Type} {k : α → β} (hf : ∀ a, k (f a) = k a) :
    (mapFirst p f l).map k = l.map k := by
  induction l with
  | nil => rfl
  | cons a l ih =>
    unfold mapFirst
    split
    · rw [List.map_cons, List.map_cons, hf]
    · rw [List.map_cons, List.map_cons, ih]

end Tabular
