import Mathlib.Data.List.Forall2
import Mathlib.Data.Option.Defs
import Tabular.Sheet

/-!
# Related lists

Two lists are compared member by member, with a relation between those at the same place.

* `forall₂_trans` and `exists_of_mem_right`: chains of related lists, and partners of members.
* `map_eq_of_rel`, `filterMap_eq_of_rel`, `countP_eq_of_rel`, `foldl_eq_of_rel` and
  `mapIdx_eq_of_rel`: what is the same of related members is the same of related lists.
* `find?_rel` and `mapFirst_rel`: **looking up and changing a member keep lists related**, if the
  test does not tell related members apart.
-/

namespace Tabular

variable {α β : Type} {S : α → α → Prop} {l l' l'' : List α} {p q : α → Bool}

theorem forall₂_trans (trans : ∀ a b c, S a b → S b c → S a c) (h : List.Forall₂ S l l')
    (h' : List.Forall₂ S l' l'') : List.Forall₂ S l l'' := by
  induction h generalizing l'' with
  | nil => exact h'
  | cons h _ ih =>
    cases h' with
    | cons h' hs' => exact .cons (trans _ _ _ h h') (ih hs')

/-- Every member of a related list has a partner in the other one. -/
theorem exists_of_mem_right {R : α → β → Prop} {l : List α} {l' : List β} {b : β}
    (h : List.Forall₂ R l l') (hb : b ∈ l') : ∃ a ∈ l, R a b := by
  induction h with
  | nil => cases hb
  | @cons a b' l l' hr _ ih =>
    rcases List.mem_cons.1 hb with rfl | hb
    · exact ⟨a, List.mem_cons_self, hr⟩
    · obtain ⟨a', ha', hr'⟩ := ih hb
      exact ⟨a', List.mem_cons_of_mem _ ha', hr'⟩

/-! ## What is the same -/

/-- What is the same of related members is the same of related lists. -/
theorem map_eq_of_rel {f g : α → β} (h : List.Forall₂ S l l') (hfg : ∀ a b, S a b → f a = g b) :
    l.map f = l'.map g := by
  induction h with
  | nil => rfl
  | cons h _ ih => rw [List.map_cons, List.map_cons, hfg _ _ h, ih]

theorem filterMap_eq_of_rel {f g : α → Option β} (h : List.Forall₂ S l l')
    (hfg : ∀ a b, S a b → f a = g b) : l.filterMap f = l'.filterMap g := by
  calc l.filterMap f = (l.map f).filterMap id := by rw [List.filterMap_map, Function.id_comp]
    _ = (l'.map g).filterMap id := by rw [map_eq_of_rel h hfg]
    _ = l'.filterMap g := by rw [List.filterMap_map, Function.id_comp]

theorem countP_eq_of_rel (h : List.Forall₂ S l l') (hpq : ∀ a b, S a b → p a = q b) :
    l.countP p = l'.countP q := by
  calc l.countP p = (l.map p).countP id := by rw [List.countP_map, Function.id_comp]
    _ = (l'.map q).countP id := by rw [map_eq_of_rel h hpq]
    _ = l'.countP q := by rw [List.countP_map, Function.id_comp]

theorem foldl_eq_of_rel {f : β → α → β} (h : List.Forall₂ S l l')
    (hf : ∀ b x y, S x y → f b x = f b y) (b : β) : l.foldl f b = l'.foldl f b := by
  induction h generalizing b with
  | nil => rfl
  | cons h _ ih => rw [List.foldl_cons, List.foldl_cons, hf b _ _ h, ih]

theorem mapIdx_eq_of_rel {f : Nat → α → β} (h : List.Forall₂ S l l')
    (hf : ∀ i x y, S x y → f i x = f i y) : l.mapIdx f = l'.mapIdx f := by
  induction h generalizing f with
  | nil => rfl
  | cons h _ ih =>
    rw [List.mapIdx_cons, List.mapIdx_cons, hf 0 _ _ h, ih fun i => hf (i + 1)]

theorem isSome_eq_of_rel {x y : Option α} (h : Option.Rel S x y) : x.isSome = y.isSome := by
  cases h <;> rfl

/-! ## Looking up and changing -/

/-- Members that are looked up at the same place are related. -/
theorem find?_rel (h : List.Forall₂ S l l') (hp : ∀ a b, S a b → q b = p a) :
    Option.Rel S (l.find? p) (l'.find? q) := by
  induction h with
  | nil => exact .none
  | @cons a b l l' hab _ ih =>
    rw [List.find?_cons, List.find?_cons, hp a b hab]
    cases p a with
    | true => exact .some hab
    | false => exact ih

/-- Changing members at the same place keeps lists related. -/
theorem mapFirst_rel {f g : α → α} (h : List.Forall₂ S l l') (hp : ∀ a b, S a b → q b = p a)
    (hfg : ∀ a b, S a b → S (f a) (g b)) :
    List.Forall₂ S (mapFirst p f l) (mapFirst q g l') := by
  induction h with
  | nil => exact .nil
  | @cons a b l l' hab hl ih =>
    unfold mapFirst
    rw [hp a b hab]
    split
    · exact .cons (hfg a b hab) hl
    · exact .cons hab ih

end Tabular
